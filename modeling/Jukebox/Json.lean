import Jukebox.Text.Quoted

set_option autoImplicit false

/-! # JSON documents

`Json` is a JSON value whose numbers are integers, the only numbers the catalog reads or
writes. Objects keep their fields in the order they were built.

Two printers: `Json.compact` writes a value on one line with no spaces, and `Json.indented`
writes it the way the command line prints its answers, one field or item per line, nested
levels indented by two more spaces, a space after each colon, and empty containers as `[]`
and `{}`. Both escape a string the same way (`Json.escape`): the quote and the backslash take
a backslash, `\b \f \n \r \t` keep their short forms, other controls and the characters `<`,
`>`, `&`, U+2028 and U+2029 are written `\u00XX` style, and all else is written as it is.
-/

namespace Jukebox

/-- A JSON value with integer numbers and objects as ordered field lists. -/
inductive Json where
  | null
  | bool (b : Bool)
  | int (n : Int)
  | str (s : String)
  | arr (items : List Json)
  | obj (fields : List (String × Json))
deriving Inhabited

namespace Json

/-- The escape of one character inside a JSON string. -/
def escapeChar (c : Char) : List Char :=
  match c with
  | '"' => ['\\', '"']
  | '\\' => ['\\', '\\']
  | '\n' => ['\\', 'n']
  | '\r' => ['\\', 'r']
  | '\t' => ['\\', 't']
  | c =>
    let n := c.toNat
    if n = 8 then ['\\', 'b']
    else if n = 12 then ['\\', 'f']
    else if n < 0x20 || c = '<' || c = '>' || c = '&' || n = 0x2028 || n = 0x2029 then
      '\\' :: 'u' :: Text.hexDigits 4 n
    else [c]

/-- A string literal in JSON, quotes included. -/
def escape (s : String) : String :=
  String.ofList ('"' :: s.toList.flatMap escapeChar ++ ['"'])

/-- The decimal text of an integer. -/
def intText (n : Int) : String :=
  if n < 0 then "-" ++ toString n.natAbs else toString n.natAbs

mutual
/-- A value on one line, without spaces. -/
def compact : Json → String
  | .null => "null"
  | .bool b => if b then "true" else "false"
  | .int n => intText n
  | .str s => escape s
  | .arr items => "[" ++ compactItems items ++ "]"
  | .obj fields => "\x7b" ++ compactFields fields ++ "\x7d"

/-- Items separated by commas. -/
def compactItems : List Json → String
  | [] => ""
  | [j] => compact j
  | j :: rest => compact j ++ "," ++ compactItems rest

/-- Fields separated by commas. -/
def compactFields : List (String × Json) → String
  | [] => ""
  | [(k, v)] => escape k ++ ":" ++ compact v
  | (k, v) :: rest => escape k ++ ":" ++ compact v ++ "," ++ compactFields rest
end

/-- A line break followed by the indentation of a nesting depth. -/
def newline (depth : Nat) : String :=
  "\n" ++ String.ofList (List.replicate (2 * depth) ' ')

mutual
/-- A value at nesting depth `depth`, one item or field per line. -/
def indentedAt (depth : Nat) : Json → String
  | .arr [] => "[]"
  | .obj [] => "\x7b\x7d"
  | .arr items => "[" ++ indentedItems (depth + 1) items ++ newline depth ++ "]"
  | .obj fields => "\x7b" ++ indentedFields (depth + 1) fields ++ newline depth ++ "\x7d"
  | j => compact j

/-- Items each on its own line at depth `depth`. -/
def indentedItems (depth : Nat) : List Json → String
  | [] => ""
  | [j] => newline depth ++ indentedAt depth j
  | j :: rest => newline depth ++ indentedAt depth j ++ "," ++ indentedItems depth rest

/-- Fields each on its own line at depth `depth`. -/
def indentedFields (depth : Nat) : List (String × Json) → String
  | [] => ""
  | [(k, v)] => newline depth ++ escape k ++ ": " ++ indentedAt depth v
  | (k, v) :: rest =>
    newline depth ++ escape k ++ ": " ++ indentedAt depth v ++ "," ++ indentedFields depth rest
end

/-- A value as the command line prints it: indented, with a final line break. -/
def indented (j : Json) : String :=
  indentedAt 0 j ++ "\n"

/-- A text, or `null` when there is none. -/
def ofOption {α : Type} (f : α → Json) : Option α → Json
  | some a => f a
  | none => null

/-- A list of texts. -/
def strs (xs : List String) : Json :=
  arr (xs.map str)

/-- A field that is present only when a value is given. -/
def optField {α : Type} (key : String) (f : α → Json) : Option α → List (String × Json)
  | some a => [(key, f a)]
  | none => []

/-- A text field that is present only when the text is not empty. -/
def textField (key : String) (s : String) : List (String × Json) :=
  if s.isEmpty then [] else [(key, str s)]

example : compact (obj [("a", arr [int 1, int (-2)]), ("b", str "x\"<")]) =
    "\x7b\"a\":[1,-2],\"b\":\"x\\\"\\u003c\"\x7d" := by decide
example : indented (obj [("a", arr []), ("b", arr [int 1])]) =
    "\x7b\n  \"a\": [],\n  \"b\": [\n    1\n  ]\n\x7d\n" := by decide

end Json

end Jukebox
