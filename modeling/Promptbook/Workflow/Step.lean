import Promptbook.Workflow.Instruction

/-!
# Steps

A workflow is a list of steps. A step is a section of the workflow's text, rendered.
-/

namespace Promptbook

/-- A rendered section of a workflow. -/
structure Step where
  /-- The name, which is empty for a section without a marker. -/
  name : String
  /-- What the step does. -/
  instruction : Instruction
  /-- The text that was rendered. -/
  template : String
  /-- The variables that it was rendered with. -/
  inputs : Variables
  /-- The variables that directives wrote. -/
  outputs : Variables
  /-- The rendered text without white space around it. -/
  prompt : String
  /-- Why the text could not be rendered. -/
  error : Option String
  deriving DecidableEq, Inhabited

namespace Step

/-- Whether `step` generates text. -/
def isPrompt (step : Step) : Bool :=
  step.instruction = .prompt

/-- The value of the variable `name` that the directives of `step` wrote. -/
def output? (step : Step) (name : String) : Option Value :=
  step.outputs.value? name

/-- The text of the variable `name` that the directives of `step` wrote, unless it is empty. -/
def outputText? (step : Step) (name : String) : Option String :=
  ((step.output? name).bind Value.string?).filter (· ≠ "")

/-- The members of a step, in the order in which they are listed. -/
def memberNames : List String :=
  ["name", "instruction", "template_text", "input_values", "output_values", "rendered_prompt",
    "error"]

/-- A step as a value that lists its members in this order. -/
def toValue (step : Step) : Value :=
  .object [("name", .string step.name), ("instruction", step.instruction.toValue),
    ("template_text", .string step.template), ("input_values", .object step.inputs),
    ("output_values", .object step.outputs), ("rendered_prompt", .string step.prompt),
    ("error", (step.error.map Value.string).getD .null)]

/-- The step that a value describes. -/
def ofValue? (v : Value) : Option Step := do
  match ← v.members? memberNames with
  | [some name, some instruction, some template, some inputs, some outputs, some prompt, error] =>
    return {
      name := ← name.string?
      instruction := ← Instruction.ofValue? instruction
      template := ← template.string?
      inputs := ← inputs.object?
      outputs := ← outputs.object?
      prompt := ← prompt.string?
      error := ← Value.orAbsent? Value.string? error }
  | _ => none

end Step

end Promptbook
