import Promptbook.Directive.Registry
import Promptbook.Directive.Rendering
import Promptbook.Workflow.Hook
import Promptbook.Workflow.Segment
import Promptbook.Workflow.Step

/-!
# Plans

Planning renders every body of a workflow's text that is not blank, each on its own and with the
same inputs. It never fails: a body that cannot be rendered becomes a step with an error.
-/

namespace Promptbook

/-- The steps of a workflow. -/
structure Plan where
  /-- The steps, in the order of the text. -/
  steps : List Step
  /-- The errors of the steps that have one. -/
  errors : List String
  /-- The outputs of all steps; those of later steps count. -/
  output : Variables
  deriving DecidableEq, Inhabited

/-- What rendering the body of a step gives. -/
structure RenderedBody where
  /-- The text without white space around it. -/
  prompt : String
  /-- The variables that directives wrote. -/
  outputs : Variables
  /-- Why the body could not be rendered. -/
  error : Option String
  deriving DecidableEq, Inhabited

/-- The error of a step, with `instruction` and `name` in front of `e`. -/
def stepError (instruction : Instruction) (name : String) (e : Error) : String :=
  "In " ++ instruction.name ++ ", " ++ name ++ ": " ++ e.message

/-- The result of the rendering `r`, reported for the step `name`. -/
def RenderedBody.ofRendering (name : String) (instruction : Instruction) (r : Rendering) :
    RenderedBody :=
  match r.result with
  | .ok text => ⟨Text.trim text, r.outputs, none⟩
  | .error e => ⟨"", r.outputs, some (stepError instruction name e)⟩

variable {ω : Type}

/-- Render `body`, which is that of the step `name`. -/
def renderBody (registry : Registry ω) (name : String) (instruction : Instruction)
    (body : String) (inputs : Variables) : StateM ω RenderedBody := do
  return .ofRendering name instruction (← render registry name inputs body)

/-- The step that a segment becomes, if it has text. -/
def planSegment (options : Options ω) (inputs : Variables) :
    Segment → StateM ω (Option Step)
  | .marker _ => return none
  | .body instruction label text => do
    if Text.isBlank text.toList then return none
    let instruction := instruction.getD .prompt
    let template := Hook.insertCalls options.immediate.has text
    let rendered ← renderBody (Registry.ofOptions options) label instruction template inputs
    return some ⟨label, instruction, template, inputs, rendered.outputs, rendered.prompt,
      rendered.error⟩

/-- The steps that segments become. -/
def planSegments (options : Options ω) (inputs : Variables) :
    List Segment → StateM ω (List Step)
  | [] => return []
  | segment :: rest => do
    let step ← planSegment options inputs segment
    return step.toList ++ (← planSegments options inputs rest)

namespace Plan

/-- The plan with `steps`. -/
def ofSteps (steps : List Step) : Plan :=
  ⟨steps, steps.filterMap Step.error, steps.foldl (fun all step => all.overlay step.outputs) []⟩

/-- Plan the workflow that `source` describes. -/
def ofSource (source : String) (inputs : Variables) (options : Options ω) : StateM ω Plan := do
  return .ofSteps (← planSegments options inputs (Segment.ofSource source))

/-- Whether a step of `plan` has an error. -/
def hasErrors (plan : Plan) : Bool :=
  !plan.errors.isEmpty

/-- A plan as a value that lists the steps first, then the errors and the output. -/
def toValue (plan : Plan) : Value :=
  .object [("steps", .array (plan.steps.map Step.toValue)),
    ("errors", .array (plan.errors.map .string)), ("output", .object plan.output)]

/-- The plan that a value describes. -/
def ofValue? (v : Value) : Option Plan := do
  match ← v.members? ["steps", "errors", "output"] with
  | [some steps, some errors, some output] =>
    return ⟨← steps.listOf? Step.ofValue?, ← errors.listOf? Value.string?, ← output.object?⟩
  | _ => none

end Plan

end Promptbook
