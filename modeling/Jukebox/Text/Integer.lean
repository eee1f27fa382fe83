import Jukebox.Text.Quoted

set_option autoImplicit false

/-! # Reading integers

`Integer.read base s` reads a signed 64-bit integer. An optional `+` or `-` comes first. In base
10 the rest is decimal digits. In base 0 the rest is a literal: `0b`, `0o` or `0x` (either
case) selects base 2, 8 or 16, a bare leading `0` selects base 8, anything else is decimal, and
single underscores may separate digits (and follow a prefix). A text that is not such a number
is a *syntax* failure; a number outside the signed 64-bit range is a *range* failure, and an
overflow is reported as soon as the digits read so far exceed 64 bits, even if a bad character
follows.

`Integer.readDecimal` reads the decimal numbers of up to 18 characters directly and hands longer
texts to `read 10`; both agree on every text (the short path cannot overflow).

A failure names the function and quotes the whole input:
`<function>: parsing "<text>": invalid syntax` or `... value out of range`.
-/

namespace Jukebox.Text.Integer

/-- Why a text is not an integer. -/
inductive Problem where
  | malformed
  | range
deriving DecidableEq, Repr

/-- A failed reading: the reading function's name, the text and the problem. -/
structure Failure where
  function : String
  input : String
  problem : Problem
deriving DecidableEq, Repr

/-- The failure's text. -/
def Failure.message (f : Failure) : String :=
  "strconv." ++ f.function ++ ": parsing " ++ quote f.input ++ ": " ++
    (match f.problem with
     | .malformed => "invalid syntax"
     | .range => "value out of range")

/-- The value of a digit or letter in bases up to 36, or 36 for anything else. -/
def digitValue (c : Char) : Nat :=
  if '0' ≤ c && c ≤ '9' then c.toNat - 48
  else
    let l := Char.ofNat (c.toNat ||| 0x20)
    if 'a' ≤ l && l ≤ 'z' then l.toNat - 87 else 36

/-- Whether the underscores of a literal stand only between digits (or after a prefix). -/
def underscoresFit (cs : List Char) : Bool :=
  let cs := match cs with
    | '+' :: r => r
    | '-' :: r => r
    | r => r
  let (hex, start, rest) := match cs with
    | '0' :: p :: r =>
      let l := Char.ofNat (p.toNat ||| 0x20)
      if l == 'b' || l == 'o' || l == 'x' then (l == 'x', '0', r) else (false, '^', cs)
    | _ => (false, '^', cs)
  let last := rest.foldl (fun (saw : Option Char) c =>
    match saw with
    | none => none
    | some saw =>
      if ('0' ≤ c && c ≤ '9') || (hex && digitValue c < 16) then some '0'
      else if c = '_' then (if saw = '0' then some '_' else none)
      else if saw = '_' then none
      else some '!') (some start)
  match last with
  | some c => c ≠ '_'
  | none => false

/-- Reads the digits of an unsigned number in a base: `none` for a syntax failure, `some none`
for an overflow past 64 bits, else the value. -/
def digits (base : Nat) (underscores : Bool) (cs : List Char) : Option (Option Nat) :=
  let step (acc : Option (Option Nat)) (c : Char) : Option (Option Nat) :=
    match acc with
    | some (some n) =>
      if c = '_' && underscores then some (some n)
      else
        let d := digitValue c
        if d ≥ base then none
        else
          let m := n * base + d
          if m ≥ Nat.pow 2 64 then some none else some (some m)
    | other => other
  cs.foldl step (some (some 0))

/-- Reads an unsigned number in a base (0 for a literal with prefix). -/
def readUnsigned (base : Nat) (cs : List Char) : Except Problem Nat :=
  if cs.isEmpty then .error .malformed
  else
    let literal := base == 0
    let (base, body) := if base = 0 then
        match cs with
        | '0' :: p :: r =>
          let l := Char.ofNat (p.toNat ||| 0x20)
          if r.length ≥ 1 && l = 'b' then (2, r)
          else if r.length ≥ 1 && l = 'o' then (8, r)
          else if r.length ≥ 1 && l = 'x' then (16, r)
          else (8, p :: r)
        | ['0'] => (8, [])
        | _ => (10, cs)
      else (base, cs)
    match digits base literal body with
    | none => .error .malformed
    | some none => .error .range
    | some (some n) => .ok n

/-- Reads a signed 64-bit integer in base 10 or as a literal (base 0). -/
def read (function : String) (base : Nat) (s : String) : Except Failure Int :=
  let fail (p : Problem) : Except Failure Int := .error ⟨function, s, p⟩
  let cs := s.toList
  if cs.isEmpty then fail .malformed
  else
    let (neg, rest) := match cs with
      | '+' :: r => (false, r)
      | '-' :: r => (true, r)
      | r => (false, r)
    let underscores := base = 0
    let parsed : Except Problem Nat :=
      match readUnsigned base rest with
      | .ok n =>
        if underscores && rest.contains '_' && !underscoresFit rest then .error .malformed else .ok n
      | .error .range => .ok (Nat.pow 2 64 - 1)
      | .error e => .error e
    match parsed with
    | .error p => fail p
    | .ok n =>
      if !neg && n ≥ Nat.pow 2 63 then fail .range
      else if neg && n > Nat.pow 2 63 then fail .range
      else .ok (if neg then -(n : Int) else n)

/-- Reads a decimal integer of the platform's 64-bit word. -/
def readDecimal (s : String) : Except Failure Int :=
  let cs := s.toList
  let n := s.utf8ByteSize
  if 0 < n && n < 19 then
    let (neg, rest) := match cs with
      | '-' :: r => (true, r)
      | '+' :: r => (false, r)
      | r => (false, r)
    if rest.isEmpty || !rest.all fun c => '0' ≤ c && c ≤ '9' then .error ⟨"Atoi", s, .malformed⟩
    else
      let v : Nat := rest.foldl (fun a c => a * 10 + (c.toNat - 48)) 0
      .ok (if neg then -(v : Int) else (v : Int))
  else read "Atoi" 10 s

example : (readDecimal "+5").toOption = some 5 ∧ (readDecimal "-1").toOption = some (-1) := by
  decide +kernel
example : (readDecimal " 5432").toOption = none := by decide +kernel
example : (read "ParseInt" 0 "0x1F").toOption = some 31 ∧ (read "ParseInt" 0 "010").toOption = some 8 ∧
    (read "ParseInt" 0 "1_000").toOption = some 1000 := by decide +kernel

end Jukebox.Text.Integer
