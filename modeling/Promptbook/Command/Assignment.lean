import Promptbook.Error
import Promptbook.Json.Reader
import Promptbook.Text.Search
import Promptbook.Text.Space

/-!
# Assignments

An input of a workflow is given as `name=value`. The value is read as JSON; what is no JSON is a
text.
-/

namespace Promptbook.Assignment

/-- The value that `text` gives. -/
def value (text : String) : Value :=
  (Json.read? text).getD (.string text)

/-- The name and the value of the assignment `raw`. -/
def read (raw : String) : Except Error (String × Value) :=
  match Text.breakAt? ['='] raw.toList with
  | none => .error (.configuration ("Expected key=value, got '" ++ raw ++ "'"))
  | some (before, after) =>
    let name := Text.trimSpace before
    if name.isEmpty then .error (.configuration ("Missing input name in '" ++ raw ++ "'"))
    else .ok (String.ofList name, value (String.ofList after))

/-- The variables that `assignments` give; the last assignment to a name counts. -/
def collect (assignments : List (String × Value)) : Variables :=
  Fields.collect assignments

end Promptbook.Assignment
