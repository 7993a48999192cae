import Promptbook.Directive.Argument
import Promptbook.Error

/-!
# Calls of Directives

A directive is a function from a call to a reply. It may also read and change a world outside of
the rendering, such as a cache of files. An awaited directive is one that takes its time: rendering
does not wait for it in place.
-/

namespace Promptbook

/-- The variables that the directives of a step see. -/
structure Context where
  /-- The name of the step. -/
  step : String
  /-- The variables that the caller gives. -/
  inputs : Variables
  /-- The variables that directives have written. -/
  outputs : Variables

namespace Context

/-- The context of `step` without outputs. -/
def fresh (step : String) (inputs : Variables) : Context :=
  ⟨step, inputs, []⟩

/-- The value of the variable `name`: an output hides an input. -/
def value? (context : Context) (name : String) : Option Value :=
  layered context.outputs context.inputs name

/-- The context with `v` as the output `name`. -/
def setOutput (context : Context) (name : String) (v : Value) : Context :=
  { context with outputs := context.outputs.put name v }

/-- The context without the output `name`. -/
def removeOutput (context : Context) (name : String) : Context :=
  { context with outputs := context.outputs.without name }

end Context

/-- What a directive receives. -/
structure Call where
  /-- The name under which the directive is called. -/
  name : String
  /-- The variables of the step. -/
  context : Context
  /-- The arguments. -/
  arguments : Arguments
  /-- The position of the next field that this directive of the template declares. -/
  fieldIndex : Nat

/-- What a directive answers. -/
structure Reply where
  /-- The outputs after the call. -/
  outputs : Variables
  /-- The position of the next field after the call. -/
  fieldIndex : Nat
  /-- The text for the place of the directive, if it gives one, or why it failed. -/
  result : Except Error (Option String)

/-- The reply to `call` that changes nothing and gives `text`. -/
def Call.answer (call : Call) (text : Option String) : Reply :=
  ⟨call.context.outputs, call.fieldIndex, .ok text⟩

/-- The reply to `call` that changes nothing and fails with `e`. -/
def Call.fail (call : Call) (e : Error) : Reply :=
  ⟨call.context.outputs, call.fieldIndex, .error e⟩

/-- A directive, in a world of type `ω`. -/
structure Directive (ω : Type) where
  /-- Whether rendering must wait for its reply. -/
  awaited : Bool
  /-- What the directive answers to a call. -/
  run : Call → StateM ω Reply

/-- The directives that are known, by name. -/
abbrev Registry (ω : Type) := Fields (Directive ω)

end Promptbook
