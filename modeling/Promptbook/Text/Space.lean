/-!
# Blank Characters and Trimming

The white space of Unicode, and texts with the white space cut off at one end or at both. Texts are
lists of characters where they are taken apart and strings where they are values; every operation
on strings is the one on lists between `toList` and `ofList`.
-/

namespace Promptbook.Text

/-- A character with the Unicode property `White_Space`. -/
def isSpace (c : Char) : Bool :=
  let n := c.toNat
  (9 ≤ n && n ≤ 13) || n == 32 || n == 0x85 || n == 0xA0 || n == 0x1680
    || (0x2000 ≤ n && n ≤ 0x200A) || n == 0x2028 || n == 0x2029 || n == 0x202F || n == 0x205F
    || n == 0x3000

/-- A space, tab, line feed or carriage return: the white space that formal notations use. -/
def isPlainSpace (c : Char) : Bool :=
  c == ' ' || c == '\t' || c == '\n' || c == '\r'

/-- The text without the white space it starts with. -/
def dropSpace (s : List Char) : List Char :=
  s.dropWhile isSpace

/-- The text without the white space it ends with. -/
def dropSpaceRight (s : List Char) : List Char :=
  (s.reverse.dropWhile isSpace).reverse

/-- The text without the white space around it. -/
def trimSpace (s : List Char) : List Char :=
  dropSpaceRight (dropSpace s)

/-- A text of white space alone. -/
def isBlank (s : List Char) : Bool :=
  s.all isSpace

/-- The string without the white space it starts with. -/
def trimStart (s : String) : String :=
  String.ofList (dropSpace s.toList)

/-- The string without the white space it ends with. -/
def trimEnd (s : String) : String :=
  String.ofList (dropSpaceRight s.toList)

/-- The string without the white space around it. -/
def trim (s : String) : String :=
  String.ofList (trimSpace s.toList)

/-- No letter or digit of core is white space. -/
theorem isSpace_of_isAlphanum {c : Char} (h : c.isAlphanum = true) : isSpace c = false := by
  have hrange : 48 ≤ c.toNat ∧ c.toNat ≤ 122 := by
    unfold Char.isAlphanum Char.isAlpha Char.isUpper Char.isLower Char.isDigit at h
    simp only [Bool.or_eq_true, Bool.and_eq_true, decide_eq_true_eq, UInt32.le_iff_toNat_le] at h
    rcases h with (h | h) | h <;> exact ⟨Nat.le_trans (by decide) h.1, Nat.le_trans h.2 (by decide)⟩
  rw [Bool.eq_false_iff]
  simp only [isSpace, ne_eq, Bool.or_eq_true, Bool.and_eq_true, decide_eq_true_eq, beq_iff_eq]
  omega

/-- Plain white space is white space. -/
theorem isSpace_of_isPlainSpace {c : Char} (h : isPlainSpace c) : isSpace c := by
  simp only [isPlainSpace, Bool.or_eq_true, beq_iff_eq] at h
  rcases h with ((rfl | rfl) | rfl) | rfl <;> decide

end Promptbook.Text
