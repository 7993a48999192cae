import Promptbook.Run.StepName
import Promptbook.Variable.Reserved
import Promptbook.Workflow.Step

/-!
# The Course of a Workflow

Which step comes next. The outputs of a deciding step may name a step to go to or end the run.
Otherwise a step that generates text is followed by the deciding step of the same name, if there is
one, and then by the next step in the list that generates text.
-/

namespace Promptbook

/-- What a step says about the course. -/
inductive Direction where
  /-- Go on. -/
  | onward
  /-- Go to the step named `target`. -/
  | jump (target : String)
  /-- End the run. -/
  | stop
  deriving DecidableEq, Inhabited

/-- What `step` says about the course. Only deciding steps say anything. -/
def Step.direction (step : Step) : Direction :=
  if step.isPrompt then .onward
  else match step.outputText? Reserved.goto with
    | some target => .jump target
    | none => if (step.output? Reserved.done).any Value.isTruthy then .stop else .onward

/-- The steps of a workflow. -/
abbrev Workflow := List Step

namespace Workflow

/-- The step at the place `i`. -/
def step (steps : Workflow) (i : Fin steps.length) : Step :=
  steps.get i

/-- The first step with the property `p`. -/
def first? (steps : Workflow) (p : Fin steps.length → Bool) : Option (Fin steps.length) :=
  (List.finRange steps.length).find? p

/-- The first step that generates text. -/
def firstPrompt? (steps : Workflow) : Option (Fin steps.length) :=
  steps.first? fun i => (steps.step i).isPrompt

/-- The first step named `name`. -/
def named? (steps : Workflow) (name : String) : Option (Fin steps.length) :=
  steps.first? fun i => StepName.same (steps.step i).name name

/-- The first deciding step named `name`. -/
def afterNamed? (steps : Workflow) (name : String) : Option (Fin steps.length) :=
  steps.first? fun i => !(steps.step i).isPrompt && StepName.same (steps.step i).name name

/-- The next step behind `place` that generates text. -/
def promptBehind? (steps : Workflow) (place : Fin steps.length) : Option (Fin steps.length) :=
  steps.first? fun i => place < i && (steps.step i).isPrompt

/-- Where a run stands. -/
structure Position (steps : Workflow) where
  /-- The step whose turn it is. -/
  step : Fin steps.length
  /-- The step that the run goes on behind, if it came to a deciding step from there. -/
  origin : Option (Fin steps.length)
  deriving DecidableEq

/-- Where a run goes. -/
inductive Continuation (steps : Workflow) where
  /-- To a step, where the run stands at `position`. -/
  | go (position : Position steps)
  /-- Nowhere: the run ends. -/
  | finish
  /-- To a step named `target` that does not exist. -/
  | missing (target : String)
  deriving DecidableEq

/-- The continuation at a step, if there is one. -/
def Continuation.ofStep? {steps : Workflow} : Option (Fin steps.length) → Continuation steps
  | some step => .go ⟨step, none⟩
  | none => .finish

/-- The next step that generates text, seen from `position`. -/
def onward (steps : Workflow) (position : Position steps) : Continuation steps :=
  .ofStep? (steps.promptBehind? (position.origin.getD position.step))

/-- Where a run goes when the step at `position` is complete. -/
def next (steps : Workflow) (position : Position steps) : Continuation steps :=
  let step := steps.step position.step
  match step.direction with
  | .stop => .finish
  | .jump target =>
    match steps.named? target with
    | some found => .go ⟨found, none⟩
    | none => .missing target
  | .onward =>
    match if step.isPrompt then steps.afterNamed? step.name else none with
    | some after => .go ⟨after, some position.step⟩
    | none => steps.onward position

/-- The step at the place `i` is one of `steps`. -/
theorem step_mem (steps : Workflow) (i : Fin steps.length) : steps.step i ∈ steps :=
  List.get_mem steps i

/-- Every step in `steps` is at a place. -/
theorem exists_step {steps : Workflow} {step : Step} (h : step ∈ steps) :
    ∃ i, steps.step i = step :=
  List.mem_iff_get.1 h

/-- A step `i` that is found for `p` has this property. -/
theorem eq_true_of_first? {steps : Workflow} {p : Fin steps.length → Bool} {i : Fin steps.length}
    (h : steps.first? p = some i) : p i = true :=
  List.find?_some h

/-- No step is found for `p` exactly if no step has this property. -/
theorem first?_eq_none {steps : Workflow} {p : Fin steps.length → Bool} :
    steps.first? p = none ↔ ∀ i, p i = false := by
  simp [first?]

end Workflow

end Promptbook
