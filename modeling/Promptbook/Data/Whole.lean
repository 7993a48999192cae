/-!
# Bounds of Whole Numbers

Whole numbers are kept in words of sixty-four bits, some of them with a sign.
-/

namespace Promptbook.Whole

/-- How many words of sixty-four bits there are. -/
def words : Nat := 0x10000000000000000

/-- The least number with a sign. -/
def least : Int := -0x8000000000000000

/-- The greatest number with a sign. -/
def greatest : Int := 0x7FFFFFFFFFFFFFFF

/-- The greatest number without a sign. -/
def greatestCount : Nat := 0xFFFFFFFFFFFFFFFF

/-- Whether a number fits a word with a sign. -/
def fits (n : Int) : Bool :=
  least ≤ n && n ≤ greatest

/-- The number that fits a word with a sign and is congruent to `n`. -/
def wrap (n : Int) : Int :=
  n.bmod words

end Promptbook.Whole
