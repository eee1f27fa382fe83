import Jukebox.Text.Quoted

set_option autoImplicit false

/-! # Formatted text

`Printf.render format args` fills a format with arguments the way printf-style formatting does:
text is copied, and each *directive* `%[flags][width][.precision]verb` writes the next argument.
Arguments are texts, 64-bit integers, booleans or nothing.

* Flags: `#` alternate form, `0` pad with zeros (left padding only), `+` always a sign (or ASCII
  only quoting), `-` pad on the right, space: a space for a missing sign. Width and precision
  are numbers or `*` (taken from an integer argument); `[n]` picks the n-th argument.
* Verbs: `v` the natural form; `s` text; `q` quoted text or quoted character; `d b o O x X`
  integers in bases 10, 2, 8 and 16 (`x` on a text: its bytes in hex); `c` the character with
  that code; `U` the `U+0041` form; `t` booleans; `T` the argument's type; `%%` a percent sign.
* Mismatches are written into the text instead of failing: `%!d(string=a)` for a verb that does
  not fit its argument, `%!d(MISSING)` when the arguments ran out, `%!(EXTRA string=b)` for
  arguments left over, `%!(NOVERB)` for a format that ends after `%`, `%!d(BADINDEX)` for a bad
  `[n]`, `%!(BADWIDTH)` and `%!(BADPREC)` for a bad `*`.
-/

namespace Jukebox.Text.Printf

/-- One argument of a format. -/
inductive Arg where
  | text (s : String)
  | int (n : Int)
  | bool (b : Bool)
  | nothing
deriving DecidableEq, Repr

/-- The name of an argument's type. -/
def Arg.typeName : Arg → String
  | .text _ => "string"
  | .int _ => "int64"
  | .bool _ => "bool"
  | .nothing => "<nil>"

/-- The settings of one directive. -/
structure Spec where
  sharp : Bool := false
  zero : Bool := false
  plus : Bool := false
  minus : Bool := false
  space : Bool := false
  sharpV : Bool := false
  plusV : Bool := false
  width : Option Int := none
  prec : Option Int := none

/-- `n` copies of a character. -/
def fill (n : Int) (c : Char) : List Char := List.replicate n.toNat c

/-- Pads a text to the width, on the left unless `-` was given; zeros only on the left. -/
def Spec.pad (f : Spec) (s : List Char) : List Char :=
  match f.width with
  | none => s
  | some w =>
    let n := w - s.length
    if f.minus then s ++ fill n ' '
    else fill n (if f.zero then '0' else ' ') ++ s

/-- Pads with spaces only. -/
def Spec.padSpaces (f : Spec) (s : List Char) : List Char :=
  { f with zero := false }.pad s

/-- The digits of a natural number in a base, with lower or upper case letters. -/
def digitsIn (base : Nat) (upper : Bool) (n : Nat) : List Char :=
  (Nat.toDigits base n).map fun c => if upper then c.toUpper else c

/-- An integer in a base, with sign, precision, alternate form and padding. -/
def Spec.integer (f : Spec) (v : Int) (base : Nat) (upper : Bool) (verb : Char) : List Char :=
  let negative := v < 0
  let u := v.natAbs
  if f.prec = some 0 && u = 0 then fill (f.width.getD 0) ' '
  else
    let prec : Int := match f.prec with
      | some p => p
      | none =>
        match f.width with
        | some w => if f.zero && !f.minus then (if negative || f.plus || f.space then w - 1 else w) else 0
        | none => 0
    let ds := digitsIn base upper u
    let ds := fill (prec - ds.length) '0' ++ ds
    let ds := if f.sharp then
        match base with
        | 2 => '0' :: 'b' :: ds
        | 8 => if ds.head? = some '0' then ds else '0' :: ds
        | 16 => '0' :: (if upper then 'X' else 'x') :: ds
        | _ => ds
      else ds
    let ds := if verb = 'O' then '0' :: 'o' :: ds else ds
    let ds := if negative then '-' :: ds else if f.plus then '+' :: ds
      else if f.space then ' ' :: ds else ds
    f.padSpaces ds

/-- The 64-bit two's complement pattern of an integer, as an unsigned number. -/
def unsigned64 (v : Int) : Nat := (v % Int.pow 2 64).toNat

/-- The character an integer names, or U+FFFD when it names none. -/
def runeOf (v : Int) : Char :=
  let u := unsigned64 v
  if u > 0x10FFFF || (0xD800 ≤ u && u < 0xE000) then Char.ofNat 0xFFFD else Char.ofNat u

/-- Escapes a character for quoting, keeping non-ASCII characters only when `ascii` is off. -/
def escapeIn (ascii : Bool) (delim : Char) (c : Char) : List Char :=
  if ascii && c.toNat ≥ 0x80 then
    if c.toNat < 0x10000 then '\\' :: 'u' :: hexDigits 4 c.toNat
    else '\\' :: 'U' :: hexDigits 8 c.toNat
  else escapeFor delim c

/-- A text between double quotes. -/
def quoted (ascii : Bool) (s : List Char) : List Char :=
  '"' :: s.flatMap (escapeIn ascii '"') ++ ['"']

/-- Whether a text can stand between backquotes unchanged. -/
def canBackquote (s : List Char) : Bool :=
  s.all fun c => c.toNat ≠ 0xFEFF && !(c.toNat < 0x20 && c ≠ '\t') && c.toNat ≠ 96 && c.toNat ≠ 0x7F

/-- A text cut to the precision, counted in characters. -/
def Spec.truncate (f : Spec) (s : List Char) : List Char :=
  match f.prec with
  | some p => s.take p.toNat
  | none => s

/-- A text, quoted. -/
def Spec.quote (f : Spec) (s : List Char) : List Char :=
  let s := f.truncate s
  if f.sharp && canBackquote s then f.pad (Char.ofNat 96 :: s ++ [Char.ofNat 96])
  else f.pad (quoted f.plus s)

/-- The bytes of a text in hexadecimal. -/
def Spec.hexBytes (f : Spec) (s : List Char) (upper : Bool) : List Char :=
  let bytes := s.flatMap utf8Bytes
  let bytes := match f.prec with
    | some p => bytes.take p.toNat
    | none => bytes
  let hex (b : Nat) : List Char := digitsIn 16 upper (b / 16) ++ digitsIn 16 upper (b % 16)
  let prefix0x : List Char := ['0', if upper then 'X' else 'x']
  if bytes.isEmpty then fill (f.width.getD 0) (if f.zero then '0' else ' ')
  else
    let body := match bytes with
      | [] => []
      | b :: rest =>
        (if f.sharp then prefix0x else []) ++ hex b ++
          rest.flatMap fun b => (if f.space then ' ' :: (if f.sharp then prefix0x else []) else []) ++ hex b
    let n := (f.width.getD 0) - body.length
    if f.minus then body ++ fill n ' ' else fill n (if f.zero then '0' else ' ') ++ body

/-- `U+XXXX`, and with `#` the character in quotes when printable. -/
def Spec.unicode (f : Spec) (v : Int) : List Char :=
  let u := unsigned64 v
  let prec : Nat := match f.prec with
    | some p => if p > 4 then p.toNat else 4
    | none => 4
  let ds := digitsIn 16 true u
  let ds := List.replicate (prec - ds.length) '0' ++ ds
  let tail := if f.sharp && u ≤ 0x10FFFF && isPrintable (Char.ofNat u) then
      [' ', '\'', Char.ofNat u, '\''] else []
  f.padSpaces ('U' :: '+' :: ds ++ tail)

/-- An argument in its natural form, as the `v` verb writes it. -/
def Spec.natural (f : Spec) : Arg → List Char
  | .nothing => f.pad "<nil>".toList
  | .bool b => f.pad (if b then "true" else "false").toList
  | .int n => f.integer n 10 false 'v'
  | .text s => if f.sharpV then f.quote s.toList else f.pad (f.truncate s.toList)

/-- A verb that does not fit its argument: `%!verb(type=value)`, the value in its natural form
under the directive's flags. -/
def Spec.bad (f : Spec) (a : Arg) (verb : Char) : List Char :=
  '%' :: '!' :: verb :: '(' ::
    (match a with
     | .nothing => "<nil>".toList
     | _ => a.typeName.toList ++ '=' :: f.natural a) ++ [')']

/-- An argument written by a verb. -/
def Spec.arg (f : Spec) (a : Arg) (verb : Char) : List Char :=
  match a with
  | .nothing =>
    if verb = 'T' || verb = 'v' then f.pad "<nil>".toList else f.bad a verb
  | _ =>
    if verb = 'T' then f.pad (f.truncate a.typeName.toList)
    else if verb = 'v' then f.natural a
    else
      match a with
      | .bool b => if verb = 't' then f.pad (if b then "true" else "false").toList else f.bad a verb
      | .int n =>
        match verb with
        | 'd' => f.integer n 10 false verb
        | 'b' => f.integer n 2 false verb
        | 'o' => f.integer n 8 false verb
        | 'O' => f.integer n 8 false verb
        | 'x' => f.integer n 16 false verb
        | 'X' => f.integer n 16 true verb
        | 'c' => f.pad [runeOf n]
        | 'q' => f.pad ('\'' :: escapeIn f.plus '\'' (runeOf n) ++ ['\''])
        | 'U' => f.unicode n
        | _ => f.bad a verb
      | .text s =>
        match verb with
        | 's' => f.pad (f.truncate s.toList)
        | 'x' => f.hexBytes s.toList false
        | 'X' => f.hexBytes s.toList true
        | 'q' => f.quote s.toList
        | _ => f.bad a verb
      | .nothing => []

/-- The value of a run of decimal digits. -/
def digitsValue (ds : List Char) : Nat :=
  ds.foldl (fun a c => a * 10 + (c.toNat - 48)) 0

/-- Reads a decimal number at the start of a text: the number, or `none` when no digit starts
the text, and the rest. Reading gives up on a runaway number, one that has passed a million and
still has digits to come: it is no number, and it consumes the whole rest of the format. -/
def readNumber (cs : List Char) : Option Nat × List Char :=
  let ds := cs.takeWhile Char.isDigit
  if ds.isEmpty then (none, cs)
  else if digitsValue ds.dropLast > 1000000 then (none, [])
  else (some (digitsValue ds), cs.drop ds.length)

/-- What an argument index `[n]` says. -/
structure Index where
  /-- The argument it picks, counted from zero, when `n` names one of the arguments. -/
  pick : Option Nat
  /-- Whether the brackets held a plain number, even one that names no argument. -/
  wellFormed : Bool

/-- Reads an argument index at the start of a text, when the text starts with `[`: what it
says and the rest. The index runs to the first `]`; without one, or when the text is too short
to hold `[n]`, only the `[` is consumed. -/
def readIndex (argc : Nat) : List Char → Option (Index × List Char)
  | '[' :: rest =>
    if rest.length < 2 then some (⟨none, false⟩, rest)
    else
      match rest.findIdx? (· == ']') with
      | none => some (⟨none, false⟩, rest)
      | some k =>
        let after := rest.drop (k + 1)
        match readNumber (rest.take k) with
        | (some n, []) =>
          some (⟨if 1 ≤ n && n ≤ argc then some (n - 1) else none, true⟩, after)
        | _ => some (⟨none, false⟩, after)
  | _ => none

/-- The state of a formatting run: what is written, the next argument, whether an index was
used (which stops the report of arguments left over), and whether the directive being read
still has a usable argument index. -/
structure Run where
  out : List Char := []
  next : Nat := 0
  reordered : Bool := false
  goodIndex : Bool := true

/-- Appends text to the output. -/
def Run.write (r : Run) (s : List Char) : Run := { r with out := r.out ++ s }

/-- Reads an argument index, if one starts the text, into the run: the run, whether a
well-formed index was read, and the rest. -/
def Run.takeIndex (r : Run) (argc : Nat) (cs : List Char) : Run × Bool × List Char :=
  match readIndex argc cs with
  | none => (r, false, cs)
  | some (ix, rest) =>
    let r := { r with reordered := true }
    match ix.pick with
    | some i => ({ r with next := i }, true, rest)
    | none => ({ r with goodIndex := false }, ix.wellFormed, rest)

/-- Takes the next argument for a `*`: its value when it is an integer of at most a million
either way, and the run past it. -/
def Run.star (r : Run) (args : List Arg) : Option Int × Run :=
  match args[r.next]? with
  | none => (none, r)
  | some a =>
    let r := { r with next := r.next + 1 }
    match a with
    | .int n => (if n.natAbs ≤ 1000000 then some n else none, r)
    | _ => (none, r)

/-- Reads flags. -/
def readFlags (f : Spec) : List Char → Spec × List Char
  | '#' :: rest => readFlags { f with sharp := true } rest
  | '0' :: rest => readFlags { f with zero := !f.minus } rest
  | '+' :: rest => readFlags { f with plus := true } rest
  | '-' :: rest => readFlags { f with minus := true, zero := false } rest
  | ' ' :: rest => readFlags { f with space := true } rest
  | cs => (f, cs)

/-- Reads a width: a `*` or a number. -/
def readWidth (args : List Arg) (f : Spec) (r : Run) (afterIndex : Bool) (cs : List Char) :
    Spec × Run × Bool × List Char :=
  match cs with
  | '*' :: rest =>
    match r.star args with
    | (some w, r) =>
      if w < 0 then ({ f with width := some (-w), minus := true, zero := false }, r, false, rest)
      else ({ f with width := some w }, r, false, rest)
    | (none, r) => (f, r.write "%!(BADWIDTH)".toList, false, rest)
  | _ =>
    let (w, rest) := readNumber cs
    -- a width right after an index, as in `%[3]2d`, spoils the index
    let r := if afterIndex && w.isSome then { r with goodIndex := false } else r
    ({ f with width := w.map Int.ofNat }, r, afterIndex, rest)

/-- Reads a precision: a `.` followed by an optional index and a `*` or a number (no number
means zero). A `.` that ends the format is not a precision. -/
def readPrecision (args : List Arg) (f : Spec) (r : Run) (afterIndex : Bool) (cs : List Char) :
    Spec × Run × Bool × List Char :=
  match cs with
  | '.' :: c :: more =>
    -- a precision right after an index, as in `%[3].2d`, spoils the index
    let r := if afterIndex then { r with goodIndex := false } else r
    let (r, afterIndex, rest) := r.takeIndex args.length (c :: more)
    match rest with
    | '*' :: rest =>
      match r.star args with
      | (some p, r) =>
        if p < 0 then ({ f with prec := none }, r.write "%!(BADPREC)".toList, false, rest)
        else ({ f with prec := some p }, r, false, rest)
      | (none, r) => ({ f with prec := none }, r.write "%!(BADPREC)".toList, false, rest)
    | _ =>
      let (p, rest) := readNumber rest
      ({ f with prec := some (Int.ofNat (p.getD 0)) }, r, afterIndex, rest)
  | _ => (f, r, afterIndex, cs)

/-- One directive after its `%`: returns the run and the rest of the format. -/
def directive (args : List Arg) (r : Run) (cs : List Char) : Run × List Char :=
  let r := { r with goodIndex := true }
  let (f, cs) := readFlags {} cs
  let (r, afterIndex, cs) := r.takeIndex args.length cs
  let (f, r, afterIndex, cs) := readWidth args f r afterIndex cs
  let (f, r, afterIndex, cs) := readPrecision args f r afterIndex cs
  let (r, cs) := if afterIndex then (r, cs) else
    let (r, _, cs) := r.takeIndex args.length cs
    (r, cs)
  match cs with
  | [] => (r.write "%!(NOVERB)".toList, [])
  | verb :: rest =>
    if verb = '%' then (r.write ['%'], rest)
    else if !r.goodIndex then (r.write ('%' :: '!' :: verb :: "(BADINDEX)".toList), rest)
    else
      match args[r.next]? with
      | none => (r.write ('%' :: '!' :: verb :: "(MISSING)".toList), rest)
      | some a =>
        -- `v` (and `w`, which formatting treats as a bad `v`) moves `#` and `+` to their
        -- `v` meanings: Go syntax and field names
        let f := if verb = 'v' || verb = 'w' then
            { f with sharpV := f.sharp, sharp := false, plusV := f.plus, plus := false }
          else f
        ({ r.write (f.arg a verb) with next := r.next + 1 }, rest)

/-- Fills a format with arguments. -/
def render (format : String) (args : List Arg) : String :=
  let rec go (fuel : Nat) (r : Run) (cs : List Char) : Run :=
    match fuel with
    | 0 => r
    | fuel + 1 =>
      match cs with
      | [] => r
      | '%' :: rest =>
        let (r', rest') := directive args r rest
        go fuel r' rest'
      | c :: rest => go fuel (r.write [c]) rest
  let r := go (format.length + 1) {} format.toList
  let extra := if !r.reordered && r.next < args.length then
      "%!(EXTRA ".toList ++ (List.intercalate [',', ' '] ((args.drop r.next).map fun a =>
        match a with
        | .nothing => "<nil>".toList
        | _ => a.typeName.toList ++ '=' :: ({} : Spec).natural a)) ++ [')']
    else []
  String.ofList (r.out ++ extra)

example : render "%d" [] = "%!d(MISSING)" := by decide
example : render "%s" [.text "a", .text "b"] = "a%!(EXTRA string=b)" := by decide
example : render "%s" [.int 12] = "%!s(int64=12)" := by decide
example : render "%05d|%-4s|%x|%+d" [.int (-42), .text "ab", .int 255, .int 3] =
    "-0042|ab  |ff|+3" := by decide
example : render "%[0][1]s" [.text "a"] = "%![(BADINDEX)1]s" := by decide
example : render "%5[]" [.int 1] = "%!](BADINDEX)" := by decide
example : render "%#w|%.0000000003s" [.text "ab", .text "abcdef"] = "%!w(string=\"ab\")|abc" := by
  decide
example : render "%999999999d" [.int 5] = "%!(NOVERB)%!(EXTRA int64=5)" := by decide

end Jukebox.Text.Printf
