import Jukebox.Text.Printable

set_option autoImplicit false

/-! # Quoted text

Two ways to write a text between double quotes so that a reader sees every character.

* `quote` keeps printable characters (see `isPrintable`) as they are and escapes
  the rest: the quote and the backslash take a backslash, the seven control characters with
  a letter name are written `\a \b \f \n \r \t \v`, other characters below U+0080 as `\xNN`,
  other characters below U+10000 as `\uNNNN` and the rest as `\UNNNNNNNN`, in lowercase hex.
* `quoteBytes` keeps the ASCII characters from the space upwards, escapes the quote
  and the backslash, and writes every UTF-8 byte of any other character as `\xNN`.
-/

namespace Jukebox.Text

/-- The lowercase hexadecimal digit of a number below 16. -/
def hexDigit (n : Nat) : Char :=
  if n < 10 then Char.ofNat (48 + n) else Char.ofNat (87 + n)

/-- The last `width` hexadecimal digits of `n`, most significant first. -/
def hexDigits (width n : Nat) : List Char :=
  (List.range width).reverse.map fun i => hexDigit (n / Nat.pow 16 i % 16)

/-- The UTF-8 bytes of a character. -/
def utf8Bytes (c : Char) : List Nat :=
  let n := c.toNat
  if n < 0x80 then [n]
  else if n < 0x800 then [0xC0 + n / 64, 0x80 + n % 64]
  else if n < 0x10000 then [0xE0 + n / 4096, 0x80 + n / 64 % 64, 0x80 + n % 64]
  else [0xF0 + n / 262144, 0x80 + n / 4096 % 64, 0x80 + n / 64 % 64, 0x80 + n % 64]

/-- The escape of one character inside a literal delimited by `delim`. -/
def escapeFor (delim : Char) (c : Char) : List Char :=
  if c = delim ∨ c = '\\' then ['\\', c]
  else if isPrintable c then [c]
  else
    match c.toNat with
    | 7 => ['\\', 'a']
    | 8 => ['\\', 'b']
    | 12 => ['\\', 'f']
    | 10 => ['\\', 'n']
    | 13 => ['\\', 'r']
    | 9 => ['\\', 't']
    | 11 => ['\\', 'v']
    | n =>
      if n < 0x80 then '\\' :: 'x' :: hexDigits 2 n
      else if n < 0x10000 then '\\' :: 'u' :: hexDigits 4 n
      else '\\' :: 'U' :: hexDigits 8 n

/-- A text between double quotes, escaping what is not printable. -/
def quote (s : String) : String :=
  String.ofList ('"' :: (s.toList.flatMap (escapeFor '"')) ++ ['"'])

/-- A character between single quotes, escaped as inside a quoted text. -/
def quoteChar (c : Char) : String :=
  String.ofList ('\'' :: escapeFor '\'' c ++ ['\''])

/-- One character of a byte-quoted text: ASCII from the space upwards as it is, the rest as
`\xNN` per UTF-8 byte. -/
def escapeBytes (c : Char) : List Char :=
  if c = '"' ∨ c = '\\' then ['\\', c]
  else if 0x20 ≤ c.toNat ∧ c.toNat < 0x80 then [c]
  else (utf8Bytes c).flatMap fun b => '\\' :: 'x' :: hexDigits 2 b

/-- A text between double quotes, with every byte outside printable ASCII as `\xNN`. -/
def quoteBytes (s : String) : String :=
  String.ofList ('"' :: (s.toList.flatMap escapeBytes) ++ ['"'])

example : quote "quo\"te" = "\"quo\\\"te\"" := by decide
example : quote "a\x01\n" = "\"a\\x01\\n\"" := by decide
example : quoteBytes "1µs" = "\"1\\xc2\\xb5s\"" := by decide

end Jukebox.Text
