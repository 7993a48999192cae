import Promptbook.Text.LetterCase
import Promptbook.Text.Space

/-!
# Names of Steps

Names of steps are compared without white space, punctuation and letter case.
-/

namespace Promptbook.StepName

/-- The punctuation that does not count in names. -/
def punctuation : List Char :=
  "-_!@#$%^&*()+=\x7b\x7d[]|:\";'<>,.?/\\".toList

/-- Whether `c` counts in names. -/
def counts (c : Char) : Bool :=
  !Text.isSpace c && !punctuation.contains c

/-- What counts of `name`. -/
def key (name : String) : String :=
  String.ofList ((name.toList.filter counts).flatMap Text.lowerChar)

/-- Whether `name` and `other` are the same. -/
def same (name other : String) : Bool :=
  key name == key other

end Promptbook.StepName
