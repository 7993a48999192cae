import Promptbook.Text.Table.Alphabetic
import Promptbook.Text.Table.Letter
import Promptbook.Text.Table.Mark
import Promptbook.Text.Table.Numeric
import Promptbook.Text.Table.Word

/-!
# Letters, Digits and Word Characters

The character classes that names are made of. Each class is decided by its table; the test for
ASCII stands in front because nearly all names are ASCII.
-/

namespace Promptbook.Text

/-- The code point lies in one of the ranges. -/
def inRanges (table : Array (Nat × Nat)) (n : Nat) : Bool :=
  table.any fun range => range.1 ≤ n && n ≤ range.2

/-- An alphabetic character of any script. -/
def isAlphabetic (c : Char) : Bool :=
  c.isAlpha || (128 ≤ c.toNat && inRanges Table.alphabetic c.toNat)

/-- A digit or number character of any script. -/
def isNumeric (c : Char) : Bool :=
  c.isDigit || (128 ≤ c.toNat && inRanges Table.numeric c.toNat)

/-- A letter, digit or number character of any script. -/
def isAlphanumeric (c : Char) : Bool :=
  isAlphabetic c || isNumeric c

/-- A character with the general category of a letter, or a letter number. -/
def isLetter (c : Char) : Bool :=
  c.isAlpha || (128 ≤ c.toNat && inRanges Table.letter c.toNat)

/-- A combining mark, a decimal digit, or connector punctuation such as the underscore. -/
def isMark (c : Char) : Bool :=
  c.isDigit || c == '_' || (128 ≤ c.toNat && inRanges Table.mark c.toNat)

/-- A character that continues a word: a letter, mark or decimal digit of any script, connector
punctuation such as the underscore, or a join control. -/
def isWord (c : Char) : Bool :=
  isLetter c || isMark c || (128 ≤ c.toNat && inRanges Table.wordOnly c.toNat)

/-- Every letter or digit of core is alphanumeric. -/
theorem isAlphanumeric_of_isAlphanum {c : Char} (h : c.isAlphanum) : isAlphanumeric c := by
  simp only [Char.isAlphanum, Bool.or_eq_true] at h
  rcases h with h | h <;> simp [isAlphanumeric, isAlphabetic, isNumeric, h]

/-- Every letter or digit of core continues a word. -/
theorem isWord_of_isAlphanum {c : Char} (h : c.isAlphanum) : isWord c := by
  simp only [Char.isAlphanum, Bool.or_eq_true] at h
  rcases h with h | h <;> simp [isWord, isLetter, isMark, h]

end Promptbook.Text
