import Promptbook.Run.Course
import Promptbook.Run.Execution

/-!
# Runs of Workflows

A run starts at the first step that generates text and goes from step to step until the workflow
ends, a step fails or too many steps have been taken. The visits of a run are kept, so that what can
be seen of it is put together from them afterwards.
-/

namespace Promptbook

/-- The execution of a step during a run. -/
structure Visit (steps : Workflow) where
  /-- The step. -/
  step : Fin steps.length
  /-- What could be seen of it. -/
  signals : List Signal
  /-- The state after it, or why it failed. -/
  result : Except Error Variables

/-- Why a run ended early, with the name of the step where it did. -/
structure Failure where
  /-- The error. -/
  error : Error
  /-- The name of the step. -/
  step : String
  deriving DecidableEq, Inhabited

/-- A run, from a step on to the end. -/
structure Journey (steps : Workflow) where
  /-- The steps that were executed. -/
  visits : List (Visit steps)
  /-- Why the run ended early, if it did. -/
  failure : Option Failure
  /-- The state at the end. -/
  state : Variables

namespace Journey

variable {steps : Workflow} {ω : Type}

/-- The run that begins with `visit` and goes on with `rest`. -/
def after (visit : Visit steps) (rest : Journey steps) : Journey steps :=
  { rest with visits := visit :: rest.visits }

/-- The run that is over in `state`. -/
def ended (state : Variables) (failure : Option Failure) : Journey steps :=
  ⟨[], failure, state⟩

/-- Go on from a position; `remaining` is the number of steps that may still be taken. -/
def walk (setting : Setting ω) : (remaining : Nat) → Workflow.Position steps → Variables →
    StateM ω (Journey steps)
  | 0, position, state =>
    return ended state
      (some ⟨.stepLimit setting.configuration.run.maxSteps, (steps.step position.step).name⟩)
  | remaining + 1, position, state => do
    let step := steps.step position.step
    let (signals, result) ← step.execute setting state
    let visit : Visit steps := ⟨position.step, .event step.announcement :: signals, result⟩
    match result with
    | .error e => return after visit (ended state (some ⟨e, step.name⟩))
    | .ok state =>
      match steps.next position with
      | .finish => return after visit (ended state none)
      | .missing target => return after visit (ended state (some ⟨.stepNotFound target, step.name⟩))
      | .go position => return after visit (← walk setting remaining position state)

/-- The report of the failure that ended `journey`. -/
def failureSignals (journey : Journey steps) : List Signal :=
  journey.failure.toList.map fun failure =>
    .event (.stepError failure.error.message failure.step)

/-- What could be seen of `journey`. -/
def signals (journey : Journey steps) : List Signal :=
  journey.visits.flatMap Visit.signals ++ journey.failureSignals
    ++ [.event (.workflowDone journey.state none)]

end Journey

/-- What a run leaves behind. -/
structure RunRecord where
  /-- What could be seen of it. -/
  signals : List Signal
  /-- The state at the end. -/
  state : Variables
  deriving DecidableEq, Inhabited

namespace RunRecord

/-- The events of `run`. -/
def events (run : RunRecord) : List Event :=
  run.signals.filterMap Signal.event?

/-- The record of a workflow without a step to start with, which leaves `state` as it is. -/
def unstarted (state : Variables) : RunRecord :=
  ⟨[.event (.workflowDone state (some Error.noPromptStep.message))], state⟩

end RunRecord

variable {ω : Type}

namespace Workflow

/-- Travel through `steps`, if there is one to start with. -/
def journey? (setting : Setting ω) (steps : Workflow) (state : Variables) :
    StateM ω (Option (Journey steps)) :=
  match steps.firstPrompt? with
  | none => return none
  | some start =>
    some <$> Journey.walk setting setting.configuration.run.maxSteps ⟨start, none⟩ state

/-- Run the workflow `steps` from `state` on. -/
def run (setting : Setting ω) (steps : Workflow) (state : Variables) : StateM ω RunRecord := do
  match ← steps.journey? setting state with
  | none => return .unstarted state
  | some journey => return ⟨journey.signals, journey.state⟩

end Workflow

end Promptbook
