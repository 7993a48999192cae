import Promptbook.Workflow.Response

/-!
# Events

What a run of a workflow reports while it goes on.
-/

namespace Promptbook

/-- The kind of an event. -/
inductive EventKind where
  /-- A step that generates text begins. -/
  | stepBefore
  /-- A deciding step begins, or has seen the state. -/
  | stepAfter
  /-- A step has generated its text. -/
  | stepResultChunk
  /-- A piece of text has been generated. -/
  | stepResultStream
  /-- A step has failed. -/
  | stepError
  /-- The run ends. -/
  | workflowDone
  deriving DecidableEq, Inhabited

namespace EventKind

/-- The spelling of a kind. -/
def name : EventKind → String
  | stepBefore => "STEP_BEFORE"
  | stepAfter => "STEP_AFTER"
  | stepResultChunk => "STEP_RESULT_CHUNK"
  | stepResultStream => "STEP_RESULT_STREAM"
  | stepError => "STEP_ERROR"
  | workflowDone => "WORKFLOW_DONE"

/-- All kinds. -/
def all : List EventKind :=
  [stepBefore, stepAfter, stepResultChunk, stepResultStream, stepError, workflowDone]

/-- The kind with exactly this name. -/
def read? (s : String) : Option EventKind :=
  all.find? (·.name = s)

/-- A kind is read back from its spelling. -/
@[simp] theorem read?_name (kind : EventKind) : read? kind.name = some kind := by
  cases kind <;> decide

end EventKind

/-- A report of a run. -/
inductive Event where
  /-- The step that generates text named `step` begins. -/
  | stepBefore (step : String)
  /-- The deciding step named `step` begins, or has seen `state`. -/
  | stepAfter (step : String) (state : Option Variables)
  /-- A step has generated its text, of which `response` tells. -/
  | stepResultChunk (result : GenerationResult) (response : Response)
  /-- The piece `token` of a text has been generated. -/
  | stepResultStream (token : String)
  /-- The step named `step` has failed. -/
  | stepError (error step : String)
  /-- The run ends with `finalState`; there is an `error` if it could not begin. -/
  | workflowDone (finalState : Variables) (error : Option String)
  deriving DecidableEq, Inhabited

namespace Event

/-- The report of the response `r`. -/
def ofResponse (r : Response) : Event :=
  stepResultChunk (.ofResponse r) r

/-- The kind of an event. -/
def kind : Event → EventKind
  | stepBefore _ => .stepBefore
  | stepAfter _ _ => .stepAfter
  | stepResultChunk _ _ => .stepResultChunk
  | stepResultStream _ => .stepResultStream
  | stepError _ _ => .stepError
  | workflowDone _ _ => .workflowDone

/-- The members of an event, its kind apart. -/
def members : Event → List (String × Value)
  | stepBefore step => [("step", .string step)]
  | stepAfter step state =>
    (state.map fun s => ("state", Value.object s)).toList ++ [("step", .string step)]
  | stepResultChunk result response =>
    [("response", response.toValue), ("result", result.toValue)]
  | stepResultStream token => [("token", .string token)]
  | stepError error step => [("error", .string error), ("step", .string step)]
  | workflowDone finalState error =>
    (error.map fun e => ("error", Value.string e)).toList ++ [("final_state", .object finalState)]

/-- An event as a value. -/
def toValue (event : Event) : Value :=
  .object (Fields.put event.members "event" (.string event.kind.name))

/-- The event of a kind with the members that a value gives. -/
def ofRecord? (v : Value) : EventKind → Option Event
  | .stepBefore => do
    match ← v.members? ["step"] with
    | [some step] => return stepBefore (← step.string?)
    | _ => none
  | .stepAfter => do
    match ← v.members? ["step", "state"] with
    | [some step, state] =>
      return stepAfter (← step.string?) (← Value.orAbsent? Value.object? state)
    | _ => none
  | .stepResultChunk => do
    match ← v.members? ["result", "response"] with
    | [some result, some response] =>
      return stepResultChunk (← GenerationResult.ofValue? result) (← Response.ofValue? response)
    | _ => none
  | .stepResultStream => do
    match ← v.members? ["token"] with
    | [some token] => return stepResultStream (← token.string?)
    | _ => none
  | .stepError => do
    match ← v.members? ["error", "step"] with
    | [some error, some step] => return stepError (← error.string?) (← step.string?)
    | _ => none
  | .workflowDone => do
    match ← v.members? ["final_state", "error"] with
    | [some finalState, error] =>
      return workflowDone (← finalState.object?) (← Value.orAbsent? Value.string? error)
    | _ => none

/-- The event that a value describes. -/
def ofValue? (v : Value) : Option Event := do
  let (name, record) ← v.alternative? "event"
  ofRecord? record (← EventKind.read? name)

end Event

end Promptbook
