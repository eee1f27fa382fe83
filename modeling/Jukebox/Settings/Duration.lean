import Jukebox.Text.Quoted

set_option autoImplicit false

/-! # Durations

A duration is a signed count of nanoseconds that fits in 64 bits. Its text is a sequence of
decimal numbers, each with an optional fraction and a unit (`ns`, `us` or `µs`, `ms`, `s`, `m`,
`h`), after an optional sign: `300ms`, `-1.5h`, `2h45m`. A bare `0` is zero.

`Duration.parse` reads such a text; `Duration.text` writes the shortest form back: below one
second a single unit (`ns`, `µs`, `ms`) with a fraction, otherwise hours, minutes and seconds.

Fractions follow a binary floating-point rule: the `k` digits of the fraction that count (the
value stays within 2^63) are scaled by `unit / 10^k` in double precision and truncated, so
`1.1s` is exactly 1100000000 ns and fractions of hours are accurate to the nanosecond. The
divisor `10^k` is itself built in double precision, one factor of ten per digit; past `10^22`
that product runs below the exact power, so `0.0000000010000000000000000s` is 1 ns.
-/

namespace Jukebox.Settings

/-- A signed number of nanoseconds. -/
structure Duration where
  nanos : Int
deriving DecidableEq, Repr

namespace Duration

/-- Why a text is not a duration. -/
inductive Problem where
  /-- Not of the form sign, numbers and units, or out of range. -/
  | invalid
  /-- A number without a unit. -/
  | missingUnit
  /-- A unit that is not one of the known ones. -/
  | unknownUnit (unit : String)
deriving DecidableEq, Repr

/-- The problem's text for the duration text `s`. -/
def Problem.message (p : Problem) (s : String) : String :=
  match p with
  | .invalid => "time: invalid duration " ++ Text.quoteBytes s
  | .missingUnit => "time: missing unit in duration " ++ Text.quoteBytes s
  | .unknownUnit u => "time: unknown unit " ++ Text.quoteBytes u ++ " in duration " ++ Text.quoteBytes s

/-- The largest magnitude a duration's text may reach before its sign is applied. -/
def bound : Nat := Nat.pow 2 63

/-- Nanoseconds in one of the named units. -/
def unitNanos : String → Option Nat
  | "ns" => some 1
  | "us" => some 1000
  | "µs" => some 1000
  | "μs" => some 1000
  | "ms" => some 1000000
  | "s" => some 1000000000
  | "m" => some 60000000000
  | "h" => some 3600000000000
  | _ => none

/-- Whether a character is a decimal digit. -/
def isDigit (c : Char) : Bool := '0' ≤ c && c ≤ '9'

/-- The value of a run of decimal digits. -/
def digitsValue (ds : List Char) : Nat :=
  ds.foldl (fun n c => n * 10 + (c.toNat - 48)) 0

/-- The fraction digits that count: digits are taken while the value stays at most `bound`;
the rest are read and ignored. Gives the value and the number of digits taken. -/
def fraction (ds : List Char) : Nat × Nat :=
  let step := fun (acc : Nat × Nat × Bool) (c : Char) =>
    let (x, k, full) := acc
    if full then acc
    else if x > (bound - 1) / 10 then (x, k, true)
    else
      let y := x * 10 + (c.toNat - 48)
      if y > bound then (x, k, true) else (y, k + 1, false)
  let (x, k, _) := ds.foldl step (0, 0, false)
  (x, k)

/-- `10^k` in double precision, multiplied up one factor of ten at a time; each product is
rounded, so from `10^23` on it may differ from the nearest double to `10^k`. -/
def tenPower : Nat → Float
  | 0 => 1
  | k + 1 => tenPower k * 10

/-- The nanoseconds of a fraction `f / 10^k` of a unit, scaled in double precision and
truncated. -/
def fractionNanos (f k unit : Nat) : Nat :=
  (Float.ofNat f * (Float.ofNat unit / tenPower k)).toUInt64.toNat

/-- Reads the number-and-unit segments of a duration's text, adding their nanoseconds to
`total`. Each segment takes at least one character, so `fuel` at the text's length suffices. -/
def segments : Nat → List Char → Nat → Except Problem Nat
  | 0, _, total => .ok total
  | _, [], total => .ok total
  | fuel + 1, c :: cs, total =>
    if !(c = '.' || isDigit c) then .error .invalid
    else
      let whole := (c :: cs).takeWhile isDigit
      let afterWhole := (c :: cs).dropWhile isDigit
      let v := digitsValue whole
      if v > bound then .error .invalid
      else
        let (f, k, hasFraction, afterNumber) := match afterWhole with
          | '.' :: r =>
            let fd := r.takeWhile isDigit
            let (f, k) := fraction fd
            (f, k, !fd.isEmpty, r.dropWhile isDigit)
          | r => (0, 0, false, r)
        if whole.isEmpty && !hasFraction then .error .invalid
        else
          let unitChars := afterNumber.takeWhile fun c => !(c = '.' || isDigit c)
          let rest := afterNumber.dropWhile fun c => !(c = '.' || isDigit c)
          if unitChars.isEmpty then .error .missingUnit
          else
            let u := String.ofList unitChars
            match unitNanos u with
            | none => .error (.unknownUnit u)
            | some unit =>
              if v > bound / unit then .error .invalid
              else
                let v := v * unit + (if f > 0 then fractionNanos f k unit else 0)
                if v > bound then .error .invalid
                else
                  let total := total + v
                  if total > bound then .error .invalid
                  else segments fuel rest total

/-- Reads a duration's text. -/
def parse (s : String) : Except Problem Duration :=
  let (neg, body) := match s.toList with
    | '-' :: r => (true, r)
    | '+' :: r => (false, r)
    | r => (false, r)
  if body = ['0'] then .ok ⟨0⟩
  else if body.isEmpty then .error .invalid
  else
    match segments body.length body 0 with
    | .error e => .error e
    | .ok total =>
      if neg then .ok ⟨-(total : Int)⟩
      else if total > bound - 1 then .error .invalid
      else .ok ⟨total⟩

/-- The decimal digits of a natural number. -/
def decimal (n : Nat) : String := toString n

/-- The fraction `v mod 10^places` as `.digits` without trailing zeros (empty when zero), and
the whole part `v / 10^places`. -/
def splitFraction (v places : Nat) : String × Nat :=
  let frac := v % Nat.pow 10 places
  let digits := (decimal frac).toList
  let padded := List.replicate (places - digits.length) '0' ++ digits
  let kept := (padded.reverse.dropWhile (· = '0')).reverse
  ((if kept.isEmpty then "" else "." ++ String.ofList kept), v / Nat.pow 10 places)

/-- The text of a duration: `0s`; below a second one unit with a fraction (`1.5ms`, `12µs`,
`7ns`); otherwise hours and minutes when present, then seconds with a fraction (`1h2m3.5s`). -/
def text (d : Duration) : String :=
  let u := d.nanos.natAbs
  let sign := if d.nanos < 0 then "-" else ""
  if u = 0 then "0s"
  else if u < 1000 then sign ++ decimal u ++ "ns"
  else if u < 1000000 then
    let (f, w) := splitFraction u 3
    sign ++ decimal w ++ f ++ "µs"
  else if u < 1000000000 then
    let (f, w) := splitFraction u 6
    sign ++ decimal w ++ f ++ "ms"
  else
    let (f, secs) := splitFraction u 9
    let mins := secs / 60
    let hours := mins / 60
    let tail := decimal (secs % 60) ++ f ++ "s"
    if mins = 0 then sign ++ tail
    else if hours = 0 then sign ++ decimal (mins % 60) ++ "m" ++ tail
    else sign ++ decimal hours ++ "h" ++ decimal (mins % 60) ++ "m" ++ tail

example : (parse "30s").toOption = some ⟨30000000000⟩ := by decide +kernel
example : (parse "1h2m").toOption = some ⟨3720000000000⟩ := by decide +kernel
example : (parse "5").toOption = none ∧ (parse "").toOption = none := by decide +kernel
example : text ⟨30000000000⟩ = "30s" ∧ text ⟨1500000⟩ = "1.5ms" ∧ text ⟨3723500000000⟩ = "1h2m3.5s" := by
  decide +kernel

end Duration

end Jukebox.Settings
