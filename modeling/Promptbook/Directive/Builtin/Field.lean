import Promptbook.Directive.Builtin.FieldSpec
import Promptbook.Directive.Call
import Promptbook.Variable.Reserved

/-!
# Declaration of Fields

Each argument declares a field. Its value becomes an output, and what a form needs to know about it
is recorded beside the other fields.
-/

namespace Promptbook.Builtin

/-- The fields that `outputs` have recorded so far; anything but an object counts as none. -/
def recordedFields (outputs : Variables) : Fields Value :=
  match outputs.value? Reserved.promptFields with
  | some (.object fields) => fields
  | _ => []

/-- The outputs after the declaration of the field `key` with `spec`, at the position `order`. -/
def declare (inputs outputs : Variables) (key : String) (spec : FieldSpec) (order : Nat) :
    Variables :=
  let outputs := outputs.put key (spec.value (inputs.value? key))
  let recorded := (recordedFields outputs).put key (spec.record key order)
  outputs.put Reserved.promptFields (.object recorded)

/-- Declare fields one after another, from the position `order` on. Where one cannot be declared,
the fields before it stay declared and the count stays where it is. -/
def declareAll (inputs outputs : Variables) (order : Nat) : Arguments → Reply
  | [] => ⟨outputs, 0, .ok none⟩
  | (key, v) :: rest =>
    match FieldSpec.ofArgument key v with
    | .error e => ⟨outputs, order, .error e⟩
    | .ok spec => declareAll inputs (declare inputs outputs key spec order) (order + 1) rest

/-- Declare a field for each argument. -/
def field {ω : Type} : Directive ω := ⟨false, fun call =>
  return declareAll call.context.inputs call.context.outputs call.fieldIndex call.arguments⟩

end Promptbook.Builtin
