import Jukebox.Settings.Environment
import Jukebox.Text.Blank
import Jukebox.Text.Quoted
import Jukebox.Text.Latin

set_option autoImplicit false

/-! # Environment files

An environment file assigns variables, one statement after another:

* blank space (any Unicode space, line ends included) between statements is skipped, and a
  statement that starts with `#` is a comment up to the end of its line;
* a statement is `NAME=value` or `NAME: value`, optionally after `export` and a space;
* a name holds letters, digits, `_` and `.`, read byte by byte as Latin-1 characters, and the
  spaces `\t \v \f \r`, space, U+0085 and U+00A0 inside it are kept but do not end it; any other
  character makes the whole file unreadable;
* a statement with no `=` or `:` at all assigns the rest of its line to the empty name;
* an unquoted value runs to the end of the line, loses a comment that starts at the last `#`
  after a space, and is trimmed of those spaces, so `a #b #c` reads as `a #b`;
* a value in single or double quotes runs to the first matching quote that does not follow a
  backslash and may span lines; in double quotes `\n` and `\r` stand for line ends and a
  backslash before any other character except `$` is dropped;
* unquoted and double-quoted values expand `$NAME`, `${NAME}` and `$(NAME` (names of capitals,
  digits and `_`) to the value assigned earlier in the file, else to nothing, whatever the
  environment holds; `\$` keeps the dollar.

Loading a file sets each variable it assigns that the environment does not hold yet, even when
the environment holds it with the empty text. A file that cannot be read sets nothing.
-/

namespace Jukebox.Settings

namespace EnvFile

/-- Why a file cannot be read. -/
inductive Problem where
  | unexpectedCharacter (c : Char)
  | emptyStatement
  | unterminatedQuote
deriving DecidableEq, Repr

/-- The spaces that separate parts of a statement: tab, vertical tab, form feed, carriage
return, space, U+0085 and U+00A0. -/
def isLineSpace (c : Char) : Bool :=
  c = '\t' || c.toNat = 0x0B || c.toNat = 0x0C || c = '\r' || c = ' ' || c.toNat = 0x85 ||
    c.toNat = 0xA0

/-- What one byte of a name does. -/
inductive NameByte where
  | skip
  | stop
  | keep
  | bad
deriving DecidableEq, Repr

/-- The role of a byte in a name. -/
def nameByte (b : Nat) : NameByte :=
  if isLineSpace (Char.ofNat b) then .skip
  else if b = 61 || b = 58 then .stop
  else if b = 95 || b = 46 || Text.latinLetter b || Text.latinNumber b then .keep
  else .bad

/-- Whether a character's bytes may stand in a name, stop it, or make it unreadable: the
first non-keeping byte decides. -/
def nameChar (c : Char) : NameByte :=
  match (Text.utf8Bytes c).map nameByte |>.find? (fun r => r = .stop || r = .bad) with
  | some r => r
  | none => .keep

/-- The number of characters before the `=` or `:` that ends a name, `none` if the text has
none, or the character that cannot stand in a name. -/
def nameLength : List Char → Except Char (Option Nat)
  | [] => .ok none
  | c :: cs =>
    match nameChar c with
    | .stop => .ok (some 0)
    | .bad => .error c
    | _ => (nameLength cs).map (·.map (· + 1))

/-- Drops `export` and the spaces after it when a space follows the word. -/
def dropExport (cs : List Char) : List Char :=
  match cs with
  | 'e' :: 'x' :: 'p' :: 'o' :: 'r' :: 't' :: c :: rest =>
    if isLineSpace c then (c :: rest).dropWhile isLineSpace else cs
  | _ => cs

/-- Splits a statement into its name and the text after the name's end. -/
def splitName (cs : List Char) : Except Problem (String × List Char) :=
  let cs := dropExport (cs.dropWhile isLineSpace)
  match nameLength cs with
  | .error c => .error (.unexpectedCharacter c)
  | .ok end? =>
    if cs.isEmpty then .error .emptyStatement
    else
      match end? with
      | some n =>
        let name := (cs.take n).reverse.dropWhile Text.isBlank |>.reverse
        .ok (String.ofList name, (cs.drop (n + 1)).dropWhile isLineSpace)
      | none => .ok ("", cs.dropWhile isLineSpace)

/-- The value assigned to a name so far in a file (later assignments win). -/
def lookup (file : List (String × String)) (name : String) : Option String :=
  (file.reverse.find? (·.1 = name)).map (·.2)

/-- Whether a character may stand in an expanded name. -/
def isNameChar (c : Char) : Bool :=
  ('A' ≤ c && c ≤ 'Z') || ('0' ≤ c && c ≤ '9') || c = '_'

/-- The text after a `$` that belongs to a reference: an optional `(`, an optional `\x7b`,
a name, and an optional closing brace. Gives the characters taken, the name and the rest. -/
def reference (cs : List Char) : List Char × List Char × List Char :=
  let (paren, cs) := match cs with
    | '(' :: r => (['('], r)
    | r => ([], r)
  let (open_, cs) := match cs with
    | '{' :: r => (['{'], r)
    | r => ([], r)
  let name := cs.takeWhile isNameChar
  let cs := cs.dropWhile isNameChar
  let (close, cs) := match cs with
    | '}' :: r => (['}'], r)
    | r => ([], r)
  (paren ++ open_ ++ name ++ close, name, cs)

/-- Expands the references of a value; `fuel` at the value's length suffices since every step
takes at least one character. -/
def expandWith (file : List (String × String)) : Nat → List Char → List Char
  | 0, cs => cs
  | _, [] => []
  | fuel + 1, '\\' :: '$' :: rest =>
    let (taken, _, after) := reference rest
    '$' :: taken ++ expandWith file fuel after
  | fuel + 1, '$' :: rest =>
    let (taken, name, after) := reference rest
    if name.isEmpty then '$' :: taken ++ expandWith file fuel after
    else ((lookup file (String.ofList name)).getD "").toList ++ expandWith file fuel after
  | fuel + 1, c :: rest => c :: expandWith file fuel rest

/-- Expands the references of a value. -/
def expand (file : List (String × String)) (cs : List Char) : String :=
  String.ofList (expandWith file cs.length cs)

/-- Turns `\n` and `\r` into line ends, leaving other backslash pairs. -/
def lineEscapes : List Char → List Char
  | '\\' :: 'n' :: rest => '\n' :: lineEscapes rest
  | '\\' :: 'r' :: rest => '\r' :: lineEscapes rest
  | '\\' :: c :: rest => if c = '\n' then '\\' :: lineEscapes (c :: rest) else '\\' :: c :: lineEscapes rest
  | c :: rest => c :: lineEscapes rest
  | [] => []

/-- Drops a backslash before any character but `$`. -/
def dropBackslashes : List Char → List Char
  | '\\' :: c :: rest => if c = '$' then '\\' :: dropBackslashes (c :: rest) else c :: dropBackslashes rest
  | c :: rest => c :: dropBackslashes rest
  | [] => []

/-- The position of the first `q` after the opening quote that does not follow a backslash. -/
def closingQuote (q : Char) : Nat → Char → List Char → Option Nat
  | _, _, [] => none
  | i, prev, c :: rest => if c = q && prev ≠ '\\' then some i else closingQuote q (i + 1) c rest

/-- The position of the last `#` (not the line's first character) that follows a statement
space, given the position and the character before the text. -/
def commentStart : Nat → Char → List Char → Option Nat
  | _, _, [] => none
  | i, prev, c :: rest =>
    match commentStart (i + 1) c rest with
    | some j => some j
    | none => if c = '#' && isLineSpace prev then some i else none

/-- Reads a value; gives it and the text after it. -/
def value (file : List (String × String)) (cs : List Char) :
    Except Problem (String × List Char) :=
  match cs with
  | q :: rest =>
    if q = '"' || q = '\'' then
      match closingQuote q 1 q rest with
      | none => .error .unterminatedQuote
      | some i =>
        let body := (cs.take i).reverse.dropWhile (· = q) |>.reverse |>.dropWhile (· = q)
        let text := if q = '"' then expand file (dropBackslashes (lineEscapes body))
          else String.ofList body
        .ok (text, cs.drop (i + 1))
    else unquoted
  | [] => unquoted
where
  /-- A value that runs to the end of its line. -/
  unquoted : Except Problem (String × List Char) :=
    let line := cs.takeWhile (fun c => c ≠ '\n' && c ≠ '\r')
    let rest := cs.dropWhile (fun c => c ≠ '\n' && c ≠ '\r')
    let line := match line with
      | c :: more => match commentStart 1 c more with
        | some i => line.take i
        | none => line
      | [] => []
    let trimmed := (line.dropWhile isLineSpace).reverse.dropWhile isLineSpace |>.reverse
    .ok (expand file trimmed, rest)

/-- Reads statements until the text ends; `fuel` at the text's length suffices since every
statement takes at least one character. -/
def statements : Nat → List Char → List (String × String) → Except Problem (List (String × String))
  | 0, _, file => .ok file
  | fuel + 1, cs, file =>
    match cs.dropWhile Text.isBlank with
    | [] => .ok file
    | '#' :: rest =>
      match rest.dropWhile (· ≠ '\n') with
      | [] => .ok file
      | more => statements fuel more file
    | start =>
      match splitName start with
      | .error e => .error e
      | .ok (name, after) =>
        match value file after with
        | .error e => .error e
        | .ok (v, rest) => statements fuel rest (Environment.assign file name v)

/-- Replaces each carriage return and line feed pair by a line feed. -/
def joinLineEnds : List Char → List Char
  | '\r' :: '\n' :: rest => '\n' :: joinLineEnds rest
  | c :: rest => c :: joinLineEnds rest
  | [] => []

/-- The assignments of a file, in the order their names first appear. -/
def parse (text : String) : Except Problem (List (String × String)) :=
  let cs := joinLineEnds text.toList
  statements (cs.length + 1) cs []

/-- Sets the variables a file assigns that the environment does not hold yet; a file that
cannot be read leaves the environment as it is. -/
def load (text : String) (env : Environment) : Environment :=
  match parse text with
  | .error _ => env
  | .ok file => file.foldl (fun e p => if env.has p.1 then e else e.set p.1 p.2) env

example : (parse "A=1\nB=\"x y\" # c\nexport C=$A-2 #d #e\n").toOption =
    some [("A", "1"), ("B", "x y"), ("C", "1-2 #d")] := by decide +kernel
example : (parse "A=1\nB\n").toOption = none := by decide +kernel

end EnvFile

end Jukebox.Settings
