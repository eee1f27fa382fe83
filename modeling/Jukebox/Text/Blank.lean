set_option autoImplicit false

/-! # Blank characters and trimming

A character is *blank* when it has the Unicode `White_Space` property: the ASCII controls
`\t \n \v \f \r`, the space, U+0085, U+00A0, U+1680, U+2000 to U+200A, U+2028, U+2029,
U+202F, U+205F and U+3000. Zero-width characters such as U+200B and U+FEFF are not blank.

`Text.trim` removes blank characters at both ends of a text; every name, email and
file reference that the catalog accepts is trimmed this way. Its two laws: the result
neither starts nor ends with a blank, and trimming twice changes nothing.
-/

namespace Jukebox.Text

/-- The Unicode `White_Space` property. -/
def isBlank (c : Char) : Bool :=
  let n := c.toNat
  (9 ≤ n && n ≤ 13) || n == 32 || n == 0x85 || n == 0xA0 || n == 0x1680 ||
    (0x2000 ≤ n && n ≤ 0x200A) || n == 0x2028 || n == 0x2029 || n == 0x202F ||
    n == 0x205F || n == 0x3000

/-- Drops the blank characters at the front of a character list. -/
def dropBlank : List Char → List Char
  | [] => []
  | c :: cs => if isBlank c then dropBlank cs else c :: cs

/-- A character list without the blanks at both of its ends. -/
def trimList (cs : List Char) : List Char :=
  (dropBlank (dropBlank cs).reverse).reverse

/-- A text without the blank characters at both of its ends. -/
def trim (s : String) : String :=
  String.ofList (trimList s.toList)

theorem dropBlank_head (cs : List Char) :
    ∀ c ∈ (dropBlank cs).head?, isBlank c = false := by
  induction cs with
  | nil => simp [dropBlank]
  | cons c cs ih =>
    by_cases h : isBlank c
    · simpa [dropBlank, h] using ih
    · simp [dropBlank, h]

theorem dropBlank_idem (cs : List Char) : dropBlank (dropBlank cs) = dropBlank cs := by
  induction cs with
  | nil => rfl
  | cons c cs ih =>
    by_cases h : isBlank c
    · simp [dropBlank, h, ih]
    · simp [dropBlank, h]

/-- A list that does not start with a blank loses nothing. -/
theorem dropBlank_of_head {cs : List Char} (h : ∀ c ∈ cs.head?, isBlank c = false) :
    dropBlank cs = cs := by
  cases cs with
  | nil => rfl
  | cons c cs => simp [dropBlank, h c rfl]

/-- What `dropBlank` keeps is an end of the list. -/
theorem dropBlank_suffix (cs : List Char) : dropBlank cs <:+ cs := by
  induction cs with
  | nil => exact List.suffix_refl _
  | cons c cs ih =>
    by_cases h : isBlank c
    · simpa [dropBlank, h] using ih.trans (List.suffix_cons c cs)
    · simp [dropBlank, h]

/-- A trimmed list does not start with a blank: its first character is the last one the second
pass kept, which is the first one the first pass kept. -/
theorem trimList_head (cs : List Char) : ∀ c ∈ (trimList cs).head?, isBlank c = false := by
  intro c hc
  rw [trimList, List.head?_reverse] at hc
  obtain ⟨t, ht⟩ := dropBlank_suffix (dropBlank cs).reverse
  have hlast : (dropBlank cs).reverse.getLast? = some c := by
    rw [← ht, List.getLast?_append, Option.mem_def.1 hc, Option.some_or]
  rw [List.getLast?_reverse] at hlast
  exact dropBlank_head cs c hlast

/-- A trimmed list does not end with a blank. -/
theorem trimList_getLast (cs : List Char) : ∀ c ∈ (trimList cs).getLast?, isBlank c = false := by
  rw [trimList, List.getLast?_reverse]
  exact dropBlank_head _

theorem trimList_idem (cs : List Char) : trimList (trimList cs) = trimList cs := by
  have hfront : dropBlank (trimList cs) = trimList cs := dropBlank_of_head (trimList_head cs)
  unfold trimList at hfront ⊢
  rw [hfront, List.reverse_reverse, dropBlank_idem]

/-- A trimmed text neither starts nor ends with a blank. -/
theorem trim_ends_not_blank (s : String) :
    (∀ c ∈ (trim s).toList.head?, isBlank c = false) ∧
      ∀ c ∈ (trim s).toList.getLast?, isBlank c = false := by
  rw [trim, String.toList_ofList]
  exact ⟨trimList_head _, trimList_getLast _⟩

/-- Trimming twice changes nothing. -/
theorem trim_trim (s : String) : trim (trim s) = trim s := by
  rw [trim, trim, String.toList_ofList, trimList_idem]

end Jukebox.Text
