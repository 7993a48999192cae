import Promptbook.Text.LetterCase

/-!
# Forms of Log Lines
-/

namespace Promptbook

/-- The form of the lines of a log. -/
inductive LogFormat where
  /-- Lines for people. -/
  | pretty
  /-- An object for each line. -/
  | json
  deriving DecidableEq, Inhabited

namespace LogFormat

/-- The spelling of a form. -/
def name : LogFormat → String
  | pretty => "pretty"
  | json => "json"

/-- The form with a name, in any letter case. -/
def read? (s : String) : Option LogFormat :=
  [pretty, json].find? fun format => Text.equalIgnoringAsciiCase format.name s

/-- A form is read back from its spelling. -/
@[simp] theorem read?_name (format : LogFormat) : read? format.name = some format := by
  cases format <;> decide

end LogFormat

end Promptbook
