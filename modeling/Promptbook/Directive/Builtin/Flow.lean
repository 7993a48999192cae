import Promptbook.Directive.Call
import Promptbook.Variable.Reserved

/-!
# Directives for the Flow of a Workflow

`done` ends the workflow after the step, and `goto` names the step that comes next.
-/

namespace Promptbook.Builtin

variable {ω : Type}

/-- End the workflow after this step. -/
def done : Directive ω := ⟨false, fun call =>
  return { call.answer none with outputs := call.context.outputs.put Reserved.done (.bool true) }⟩

/-- Go on with the step whose name is the name of the first argument. -/
def goto : Directive ω := ⟨false, fun call =>
  match call.arguments.firstKey? with
  | none => return call.fail (.missingArgument call.name "target")
  | some target =>
    return { call.answer none with
      outputs := call.context.outputs.put Reserved.goto (.string target) }⟩

end Promptbook.Builtin
