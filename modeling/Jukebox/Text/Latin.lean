set_option autoImplicit false

/-! # Bytes read as Latin-1 characters

Some rules look at a text one byte at a time and read each byte as the character with that
code, the Latin-1 reading. These are the letters and numbers of that reading: the ASCII letters
and digits, `ª µ º`, the accented capitals and small letters (without `×` and `÷`), and the
superscripts `² ³ ¹` and fractions `¼ ½ ¾`.
-/

namespace Jukebox.Text

/-- Whether a byte, read as a Latin-1 character, is a letter. -/
def latinLetter (b : Nat) : Bool :=
  (65 ≤ b && b ≤ 90) || (97 ≤ b && b ≤ 122) || b = 0xAA || b = 0xB5 || b = 0xBA ||
    (0xC0 ≤ b && b ≤ 0xD6) || (0xD8 ≤ b && b ≤ 0xF6) || (0xF8 ≤ b && b ≤ 0xFF)

/-- Whether a byte, read as a Latin-1 character, is a number. -/
def latinNumber (b : Nat) : Bool :=
  (48 ≤ b && b ≤ 57) || b = 0xB2 || b = 0xB3 || b = 0xB9 || (0xBC ≤ b && b ≤ 0xBE)

example : latinLetter 0xC3 ∧ ¬ latinLetter 0xD7 ∧ latinNumber 0xBD ∧ ¬ latinNumber 0xC0 := by
  decide

end Jukebox.Text
