import Promptbook.Proofs.Run.Events

/-!
# The Path of a Run

Which steps a run executes, told without the variable that a run carries along. What follows a step
depends on its own outputs, on the list of steps and on the step that was executed before it: a
deciding step behind one that generates text was chained to it, and a deciding step behind a
deciding step was jumped to.

## Main definitions

* `Step.Jumps`, `Step.Stops`: what the outputs of a deciding step ask for.
* `Workflow.Follows`: what follows a step, given the step before it.
* `Workflow.Arrived`: a position is one to which the step before it leads. This is the invariant
  that ties the hidden variable to the steps executed so far.
* `Workflow.Route`: the executions of a run, each following the one before it.

## Main results

* `Workflow.follows_iff`: a step is followed by what comes next at a position arrived at.
* `Workflow.arrived_of_next`: what comes next is arrived at.
* `Workflow.run_route`: every run takes a route from the first step that generates text.
-/

namespace Promptbook

variable {ω : Type}

namespace Step

/-- The outputs of a deciding `step` name the step `target` to go to. -/
def Jumps (step : Step) (target : String) : Prop :=
  step.isPrompt = false ∧ step.output? Reserved.goto = some (.string target) ∧ target ≠ ""

/-- The outputs of a deciding `step` name no step to go to and end the run. -/
def Stops (step : Step) : Prop :=
  step.isPrompt = false ∧ (∀ target, ¬ step.Jumps target) ∧
    ∃ value, step.output? Reserved.done = some value ∧ value.isTruthy = true

variable {step : Step}

/-- A `text` is put out under `name` exactly if the output is this text and the text is not
empty. -/
theorem outputText?_eq_some {name text : String} :
    step.outputText? name = some text ↔ step.output? name = some (.string text) ∧ text ≠ "" := by
  unfold outputText?
  cases step.output? name with
  | none => simp
  | some value => cases value <;> simp [Value.string?]

/-- A step says to jump to `target` exactly if its outputs name it. -/
theorem direction_eq_jump {target : String} :
    step.direction = .jump target ↔ step.Jumps target := by
  unfold direction Jumps
  rw [← outputText?_eq_some]
  cases step.isPrompt with
  | true => simp
  | false =>
    cases step.outputText? Reserved.goto with
    | some text => simp
    | none =>
      -- Whatever the step says instead, it is no jump.
      simp only [Bool.false_eq_true, if_false]
      split <;> simp

/-- A step says to stop exactly if its outputs end the run. -/
theorem direction_eq_stop : step.direction = .stop ↔ step.Stops := by
  unfold Stops
  constructor
  · intro h
    -- A jump would have taken precedence.
    refine ⟨?_, fun target hjump => ?_, ?_⟩
    · cases hkind : step.isPrompt with
      | false => rfl
      | true => simp [direction, hkind] at h
    · rw [direction_eq_jump.2 hjump] at h
      cases h
    · unfold direction at h
      split at h
      · cases h
      · split at h
        · cases h
        · split at h
          · rename_i htruthy
            exact (Option.any_eq_true _ _).1 htruthy
          · cases h
  · rintro ⟨hkind, hjump, value, hdone, htruthy⟩
    cases hgoto : step.outputText? Reserved.goto with
    | some target => exact absurd ⟨hkind, outputText?_eq_some.1 hgoto⟩ (hjump target)
    | none => simp [direction, hkind, hgoto, hdone, htruthy]

/-- A step that generates text neither jumps nor stops. -/
theorem direction_of_isPrompt (hkind : step.isPrompt = true) : step.direction = .onward := by
  rw [direction, hkind, if_pos rfl]

/-- A step that neither jumps nor stops says to go on. -/
theorem direction_eq_onward (hjump : ∀ target, ¬ step.Jumps target) (hstop : ¬ step.Stops) :
    step.direction = .onward := by
  cases hdirection : step.direction with
  | onward => rfl
  | jump target => exact absurd (direction_eq_jump.1 hdirection) (hjump target)
  | stop => exact absurd (direction_eq_stop.1 hdirection) hstop

end Step

namespace Workflow

variable {steps : Workflow}

/-- The step `i` has the property `p`, and no step before it has. -/
def IsFirst (steps : Workflow) (p : Fin steps.length → Prop) (i : Fin steps.length) : Prop :=
  p i ∧ ∀ j, j < i → ¬ p j

/-- The step that is found for `p` is the first one with this property. -/
theorem first?_eq_some {p : Fin steps.length → Bool} {i : Fin steps.length} :
    steps.first? p = some i ↔ steps.IsFirst (fun j => p j = true) i := by
  unfold first? IsFirst
  rw [List.find?_eq_some_iff_getElem]
  refine and_congr_right fun _ => ⟨?_, fun hbefore => ?_⟩
  · rintro ⟨k, hk, rfl, hbefore⟩ j hj
    have hnot := hbefore j (by simpa [Fin.lt_def] using hj)
    simpa using hnot
  · refine ⟨i, by simp, by simp, fun j hj => ?_⟩
    have hnot := hbefore ⟨j, by omega⟩ hj
    simpa using hnot

/-- Where a run goes when a step is complete. -/
inductive Sequel (steps : Workflow) where
  /-- To the step `i`. -/
  | step (i : Fin steps.length)
  /-- Nowhere: the run ends. -/
  | finish
  /-- To a step `target` that does not exist. -/
  | lost (target : String)

/-- Where a continuation goes. -/
def Continuation.sequel : Continuation steps → Sequel steps
  | .go position => .step position.step
  | .finish => .finish
  | .missing target => .lost target

/-- Behind `place` the run goes to the next step that generates text, and if there is none, it is
over. -/
inductive GoesOnBehind (steps : Workflow) (place : Fin steps.length) : Sequel steps → Prop where
  /-- There is a next step `found` that generates text. -/
  | prompt {found : Fin steps.length}
    (hfirst : steps.IsFirst (fun j => place < j ∧ (steps.step j).isPrompt = true) found) :
    GoesOnBehind steps place (.step found)
  /-- No step behind `place` generates text. -/
  | finish (hnone : ∀ j, place < j → (steps.step j).isPrompt = false) :
    GoesOnBehind steps place .finish

/-- What follows the step `i` when it is complete, if `previous` is the step that was executed
before it. -/
inductive Follows (steps : Workflow) (previous : Option (Fin steps.length))
    (i : Fin steps.length) : Sequel steps → Prop where
  /-- A deciding step jumps to the first step with the name `target`. -/
  | jump {target : String} {found : Fin steps.length} (hjump : (steps.step i).Jumps target)
    (hfirst : steps.IsFirst
      (fun j => StepName.key (steps.step j).name = StepName.key target) found) :
    Follows steps previous i (.step found)
  /-- A deciding step jumps to `target`, but no step has this name. -/
  | lost {target : String} (hjump : (steps.step i).Jumps target)
    (hnone : ∀ j : Fin steps.length, StepName.key (steps.step j).name ≠ StepName.key target) :
    Follows steps previous i (.lost target)
  /-- A deciding step ends the run. -/
  | stop (hstop : (steps.step i).Stops) : Follows steps previous i .finish
  /-- A step that generates text is chained to the first deciding step of the same name. -/
  | chain {found : Fin steps.length} (hkind : (steps.step i).isPrompt = true)
    (hfirst : steps.IsFirst (fun j => (steps.step j).isPrompt = false ∧
      StepName.key (steps.step j).name = StepName.key (steps.step i).name) found) :
    Follows steps previous i (.step found)
  /-- A step that generates text has no deciding step of the same name. -/
  | onward {sequel : Sequel steps} (hkind : (steps.step i).isPrompt = true)
    (hnone : ∀ j : Fin steps.length, (steps.step j).isPrompt = false →
      StepName.key (steps.step j).name ≠ StepName.key (steps.step i).name)
    (hgoes : steps.GoesOnBehind i sequel) : Follows steps previous i sequel
  /-- A deciding step that was chained to the step `origin` goes on behind that step. -/
  | resumed {origin : Fin steps.length} {sequel : Sequel steps}
    (hkind : (steps.step i).isPrompt = false) (hjump : ∀ target, ¬ (steps.step i).Jumps target)
    (hstop : ¬ (steps.step i).Stops) (hprevious : previous = some origin)
    (hchained : (steps.step origin).isPrompt = true) (hgoes : steps.GoesOnBehind origin sequel) :
    Follows steps previous i sequel
  /-- A deciding step that was jumped to goes on behind itself. -/
  | landed {origin : Fin steps.length} {sequel : Sequel steps}
    (hkind : (steps.step i).isPrompt = false) (hjump : ∀ target, ¬ (steps.step i).Jumps target)
    (hstop : ¬ (steps.step i).Stops) (hprevious : previous = some origin)
    (hjumped : (steps.step origin).isPrompt = false) (hgoes : steps.GoesOnBehind i sequel) :
    Follows steps previous i sequel

/-- A position to which the step `previous` leads that was executed before it. Its origin is that
step if a deciding step was chained to it, and is missing otherwise. -/
inductive Arrived (steps : Workflow) (previous : Option (Fin steps.length)) :
    Position steps → Prop where
  /-- The step generates text. -/
  | prompt {i : Fin steps.length} (hkind : (steps.step i).isPrompt = true) :
    Arrived steps previous ⟨i, none⟩
  /-- The step decides and was chained to the step `origin` before it. -/
  | chained {i origin : Fin steps.length} (hkind : (steps.step i).isPrompt = false)
    (hprevious : previous = some origin) (horigin : (steps.step origin).isPrompt = true) :
    Arrived steps previous ⟨i, some origin⟩
  /-- The step decides and was jumped to. -/
  | jumped {i origin : Fin steps.length} (hkind : (steps.step i).isPrompt = false)
    (hprevious : previous = some origin) (horigin : (steps.step origin).isPrompt = false) :
    Arrived steps previous ⟨i, none⟩

/-- The next step that generates text is found behind its `place`. -/
theorem goesOnBehind_iff {place : Fin steps.length} {sequel : Sequel steps} :
    steps.GoesOnBehind place sequel ↔
      (Continuation.ofStep? (steps.promptBehind? place)).sequel = sequel := by
  constructor
  · intro h
    cases h with
    | prompt hfirst =>
      rw [promptBehind?, first?_eq_some.2 (by simpa using hfirst)]
      rfl
    | finish hnone =>
      rw [promptBehind?, first?_eq_none.2 (by simpa using hnone)]
      rfl
  · rintro rfl
    cases hbehind : steps.promptBehind? place with
    | some found =>
      exact .prompt (by simpa using first?_eq_some.1 hbehind)
    | none =>
      exact .finish (by simpa using first?_eq_none.1 hbehind)

/-- The step `i` that `name` finds is the first one with this name. -/
theorem named?_eq_some {name : String} {i : Fin steps.length} :
    steps.named? name = some i ↔
      steps.IsFirst (fun j => StepName.key (steps.step j).name = StepName.key name) i := by
  rw [named?, first?_eq_some]
  simp [StepName.same]

/-- A `name` finds no step exactly if no step has it. -/
theorem named?_eq_none {name : String} :
    steps.named? name = none ↔
      ∀ j : Fin steps.length, StepName.key (steps.step j).name ≠ StepName.key name := by
  rw [named?, first?_eq_none]
  simp [StepName.same]

/-- The deciding step `i` that `name` finds is the first deciding step with this name. -/
theorem afterNamed?_eq_some {name : String} {i : Fin steps.length} :
    steps.afterNamed? name = some i ↔ steps.IsFirst (fun j => (steps.step j).isPrompt = false ∧
      StepName.key (steps.step j).name = StepName.key name) i := by
  rw [afterNamed?, first?_eq_some]
  simp [StepName.same]

/-- A `name` finds no deciding step exactly if no deciding step has it. -/
theorem afterNamed?_eq_none {name : String} :
    steps.afterNamed? name = none ↔ ∀ j : Fin steps.length, (steps.step j).isPrompt = false →
      StepName.key (steps.step j).name ≠ StepName.key name := by
  rw [afterNamed?, first?_eq_none]
  simp [StepName.same]

section Next

variable {position : Position steps}

/-- A step jumps to the first step `found` with the name `target`. -/
theorem next_of_named? {target : String} {found : Fin steps.length}
    (hjump : (steps.step position.step).Jumps target) (hnamed : steps.named? target = some found) :
    steps.next position = .go ⟨found, none⟩ := by
  simp only [next, Step.direction_eq_jump.2 hjump, hnamed]

/-- A step that jumps to a name which no step has goes to a missing step. -/
theorem next_of_named?_eq_none {target : String} (hjump : (steps.step position.step).Jumps target)
    (hnamed : steps.named? target = none) : steps.next position = .missing target := by
  simp only [next, Step.direction_eq_jump.2 hjump, hnamed]

/-- A step that ends the run is followed by nothing. -/
theorem next_of_stops (hstop : (steps.step position.step).Stops) :
    steps.next position = .finish := by
  simp only [next, Step.direction_eq_stop.2 hstop]

/-- A step that generates text is chained to the first deciding step `found` of the same name. -/
theorem next_of_afterNamed? {found : Fin steps.length}
    (hkind : (steps.step position.step).isPrompt = true)
    (hafter : steps.afterNamed? (steps.step position.step).name = some found) :
    steps.next position = .go ⟨found, some position.step⟩ := by
  simp only [next, Step.direction_of_isPrompt hkind, hkind, if_true, hafter]

/-- A step that generates text goes on if no deciding step has the same name. -/
theorem next_of_afterNamed?_eq_none (hkind : (steps.step position.step).isPrompt = true)
    (hafter : steps.afterNamed? (steps.step position.step).name = none) :
    steps.next position = steps.onward position := by
  simp only [next, Step.direction_of_isPrompt hkind, hkind, if_true, hafter]

/-- A deciding step that neither jumps nor stops goes on. -/
theorem next_of_decision (hkind : (steps.step position.step).isPrompt = false)
    (hjump : ∀ target, ¬ (steps.step position.step).Jumps target)
    (hstop : ¬ (steps.step position.step).Stops) :
    steps.next position = steps.onward position := by
  simp only [next, Step.direction_eq_onward hjump hstop, hkind, Bool.false_eq_true, if_false]

end Next

/-- Going on leads to a position that is arrived at, whatever the `previous` step. -/
theorem arrived_of_onward {previous : Option (Fin steps.length)}
    {position position' : Position steps} (honward : steps.onward position = .go position') :
    steps.Arrived previous position' := by
  unfold onward at honward
  cases hbehind : steps.promptBehind? (position.origin.getD position.step) with
  | none =>
    rw [hbehind] at honward
    cases honward
  | some found =>
    rw [hbehind] at honward
    cases honward
    exact .prompt (Bool.and_eq_true_iff.1 (eq_true_of_first? hbehind)).2

section Arrived

variable {previous : Option (Fin steps.length)} {position : Position steps}

/-- A step that generates text goes on behind itself. -/
theorem Arrived.onward_of_isPrompt (harrived : steps.Arrived previous position)
    (hkind : (steps.step position.step).isPrompt = true) :
    steps.onward position = .ofStep? (steps.promptBehind? position.step) := by
  cases harrived with
  | prompt => rfl
  | chained hdecides => cases hkind.symm.trans hdecides
  | jumped => rfl

/-- A deciding step behind a step `origin` that generates text goes on behind `origin`. -/
theorem Arrived.onward_of_chained (harrived : steps.Arrived previous position)
    (hkind : (steps.step position.step).isPrompt = false) {origin : Fin steps.length}
    (hprevious : previous = some origin) (horigin : (steps.step origin).isPrompt = true) :
    steps.onward position = .ofStep? (steps.promptBehind? origin) := by
  cases harrived with
  | prompt hgenerates => cases hkind.symm.trans hgenerates
  | chained _ hsame =>
    -- The origin that is carried along is the step before.
    cases hprevious.symm.trans hsame
    rfl
  | jumped _ hsame hdecides =>
    cases hprevious.symm.trans hsame
    cases horigin.symm.trans hdecides

/-- A deciding step behind another deciding step goes on behind itself. -/
theorem Arrived.onward_of_jumped (harrived : steps.Arrived previous position)
    {origin : Fin steps.length} (hprevious : previous = some origin)
    (horigin : (steps.step origin).isPrompt = false) :
    steps.onward position = .ofStep? (steps.promptBehind? position.step) := by
  cases harrived with
  | prompt => rfl
  | chained _ hsame hgenerates =>
    cases hprevious.symm.trans hsame
    cases horigin.symm.trans hgenerates
  | jumped => rfl

/-- No run starts at a deciding step: there is one before it. -/
theorem Arrived.exists_previous (harrived : steps.Arrived previous position)
    (hkind : (steps.step position.step).isPrompt = false) : ∃ origin, previous = some origin := by
  cases harrived with
  | prompt hgenerates => cases hkind.symm.trans hgenerates
  | chained _ hprevious => exact ⟨_, hprevious⟩
  | jumped _ hprevious => exact ⟨_, hprevious⟩

/-- At a position that is arrived at, only what comes next can follow a step. -/
theorem sequel_next_of_follows (harrived : steps.Arrived previous position)
    {sequel : Sequel steps} (h : steps.Follows previous position.step sequel) :
    (steps.next position).sequel = sequel := by
  -- Each rule of the relation is a branch of `next`; the last three need how the position was
  -- arrived at.
  cases h with
  | jump hjump hfirst =>
    rw [next_of_named? hjump (named?_eq_some.2 hfirst)]
    rfl
  | lost hjump hnone =>
    rw [next_of_named?_eq_none hjump (named?_eq_none.2 hnone)]
    rfl
  | stop hstop =>
    rw [next_of_stops hstop]
    rfl
  | chain hkind hfirst =>
    rw [next_of_afterNamed? hkind (afterNamed?_eq_some.2 hfirst)]
    rfl
  | onward hkind hnone hgoes =>
    rw [next_of_afterNamed?_eq_none hkind (afterNamed?_eq_none.2 hnone),
      harrived.onward_of_isPrompt hkind]
    exact goesOnBehind_iff.1 hgoes
  | resumed hkind hjump hstop hprevious hchained hgoes =>
    rw [next_of_decision hkind hjump hstop,
      harrived.onward_of_chained hkind hprevious hchained]
    exact goesOnBehind_iff.1 hgoes
  | landed hkind hjump hstop hprevious hjumped hgoes =>
    rw [next_of_decision hkind hjump hstop, harrived.onward_of_jumped hprevious hjumped]
    exact goesOnBehind_iff.1 hgoes

/-- At a position that is arrived at, what comes next follows a step that generates text. -/
theorem follows_next_of_isPrompt (harrived : steps.Arrived previous position)
    (hkind : (steps.step position.step).isPrompt = true) :
    steps.Follows previous position.step (steps.next position).sequel := by
  cases hafter : steps.afterNamed? (steps.step position.step).name with
  | some found =>
    rw [next_of_afterNamed? hkind hafter]
    exact .chain hkind (afterNamed?_eq_some.1 hafter)
  | none =>
    rw [next_of_afterNamed?_eq_none hkind hafter, harrived.onward_of_isPrompt hkind]
    exact .onward hkind (afterNamed?_eq_none.1 hafter) (goesOnBehind_iff.2 rfl)

/-- At a position that is arrived at, what comes next follows a deciding step that neither jumps nor
stops. -/
theorem follows_next_of_decision (harrived : steps.Arrived previous position)
    (hkind : (steps.step position.step).isPrompt = false)
    (hjump : ∀ target, ¬ (steps.step position.step).Jumps target)
    (hstop : ¬ (steps.step position.step).Stops) :
    steps.Follows previous position.step (steps.next position).sequel := by
  obtain ⟨origin, hprevious⟩ := harrived.exists_previous hkind
  rw [next_of_decision hkind hjump hstop]
  -- Where to go on depends on the step before: the one that chained here, or one that jumped here.
  cases horigin : (steps.step origin).isPrompt with
  | true =>
    rw [harrived.onward_of_chained hkind hprevious horigin]
    exact .resumed hkind hjump hstop hprevious horigin (goesOnBehind_iff.2 rfl)
  | false =>
    rw [harrived.onward_of_jumped hprevious horigin]
    exact .landed hkind hjump hstop hprevious horigin (goesOnBehind_iff.2 rfl)

/-- At a position that is arrived at, what comes next follows a step. -/
theorem follows_next (harrived : steps.Arrived previous position) :
    steps.Follows previous position.step (steps.next position).sequel := by
  cases hkind : (steps.step position.step).isPrompt with
  | true => exact follows_next_of_isPrompt harrived hkind
  | false =>
    -- A jump wins over a stop, and a stop over going on.
    cases hdirection : (steps.step position.step).direction with
    | jump target =>
      have hjump := Step.direction_eq_jump.1 hdirection
      cases hnamed : steps.named? target with
      | some found =>
        rw [next_of_named? hjump hnamed]
        exact .jump hjump (named?_eq_some.1 hnamed)
      | none =>
        rw [next_of_named?_eq_none hjump hnamed]
        exact .lost hjump (named?_eq_none.1 hnamed)
    | stop =>
      have hstop := Step.direction_eq_stop.1 hdirection
      rw [next_of_stops hstop]
      exact .stop hstop
    | onward =>
      refine follows_next_of_decision harrived hkind ?_ ?_
      · intro target hjump
        cases hdirection.symm.trans (Step.direction_eq_jump.2 hjump)
      · intro hstop
        cases hdirection.symm.trans (Step.direction_eq_stop.2 hstop)

/-- At a position that is arrived at, what follows a step is exactly what comes next. -/
theorem follows_iff (harrived : steps.Arrived previous position) {sequel : Sequel steps} :
    steps.Follows previous position.step sequel ↔ (steps.next position).sequel = sequel := by
  refine ⟨sequel_next_of_follows harrived, ?_⟩
  rintro rfl
  exact follows_next harrived

/-- The position that comes next is arrived at from the step before it. -/
theorem arrived_of_next {position' : Position steps}
    (hnext : steps.next position = .go position') :
    steps.Arrived (some position.step) position' := by
  cases hkind : (steps.step position.step).isPrompt with
  | true =>
    cases hafter : steps.afterNamed? (steps.step position.step).name with
    | some found =>
      rw [next_of_afterNamed? hkind hafter] at hnext
      cases hnext
      exact .chained (afterNamed?_eq_some.1 hafter).1.1 rfl hkind
    | none =>
      rw [next_of_afterNamed?_eq_none hkind hafter] at hnext
      exact arrived_of_onward hnext
  | false =>
    cases hdirection : (steps.step position.step).direction with
    | jump target =>
      have hjump := Step.direction_eq_jump.1 hdirection
      cases hnamed : steps.named? target with
      | none =>
        rw [next_of_named?_eq_none hjump hnamed] at hnext
        cases hnext
      | some found =>
        rw [next_of_named? hjump hnamed] at hnext
        cases hnext
        -- A jump leaves no origin behind, whatever the step is.
        cases hfound : (steps.step found).isPrompt with
        | true => exact .prompt hfound
        | false => exact .jumped hfound rfl hkind
    | stop =>
      rw [next_of_stops (Step.direction_eq_stop.1 hdirection)] at hnext
      cases hnext
    | onward =>
      simp only [next, hdirection, hkind, Bool.false_eq_true, if_false] at hnext
      exact arrived_of_onward hnext

/-- The steps executed so far leave no choice of what follows. -/
theorem Follows.unique (harrived : steps.Arrived previous position) {sequel sequel' : Sequel steps}
    (h : steps.Follows previous position.step sequel)
    (h' : steps.Follows previous position.step sequel') : sequel = sequel' :=
  ((follows_iff harrived).1 h).symm.trans ((follows_iff harrived).1 h')

end Arrived

/-- The executions of a run from the step `i` on, and why it ends early. The step `previous` has
been executed before, and `remaining` of `limit` steps are left. -/
inductive Route (limit : Nat) : (remaining : Nat) → (previous : Option (Fin steps.length)) →
    (i : Fin steps.length) → List (Visit steps) → Option Failure → Prop where
  /-- No step may be taken any more. -/
  | limit (previous : Option (Fin steps.length)) (i : Fin steps.length) :
    Route limit 0 previous i [] (some ⟨.stepLimit limit, (steps.step i).name⟩)
  /-- The step fails with `e`. -/
  | failed {remaining : Nat} {previous : Option (Fin steps.length)} (visit : Visit steps)
    {e : Error} (hresult : visit.result = .error e) :
    Route limit (remaining + 1) previous visit.step [visit] (some ⟨e, (steps.step visit.step).name⟩)
  /-- The step completes and the run is over. -/
  | finish {remaining : Nat} {previous : Option (Fin steps.length)} (visit : Visit steps)
    {state : Variables} (hresult : visit.result = .ok state)
    (hfollows : steps.Follows previous visit.step .finish) :
    Route limit (remaining + 1) previous visit.step [visit] none
  /-- The step completes and goes to a step `target` that does not exist. -/
  | lost {remaining : Nat} {previous : Option (Fin steps.length)} (visit : Visit steps)
    {state : Variables} {target : String} (hresult : visit.result = .ok state)
    (hfollows : steps.Follows previous visit.step (.lost target)) :
    Route limit (remaining + 1) previous visit.step [visit]
      (some ⟨.stepNotFound target, (steps.step visit.step).name⟩)
  /-- The step completes and the step `i` follows. -/
  | goesOn {remaining : Nat} {previous : Option (Fin steps.length)} (visit : Visit steps)
    {state : Variables} {i : Fin steps.length} {visits : List (Visit steps)}
    {failure : Option Failure} (hresult : visit.result = .ok state)
    (hfollows : steps.Follows previous visit.step (.step i))
    (hrest : Route limit remaining (some visit.step) i visits failure) :
    Route limit (remaining + 1) previous visit.step (visit :: visits) failure

/-- A journey from a position that is arrived at takes a route. -/
theorem route_of_walks {delivery : Delivery} {limit remaining : Nat} {position : Position steps}
    {state : Variables} {journey : Journey steps} {previous : Option (Fin steps.length)}
    (h : Journey.Walks delivery limit remaining position state journey)
    (harrived : steps.Arrived previous position) :
    Route limit remaining previous position.step journey.visits journey.failure := by
  -- The induction is on the journey, and every step of it hands itself on as the step before.
  induction h generalizing previous with
  | limit position state => exact .limit previous position.step
  | @failed _ position _ signals e _ =>
    exact .failed (Visit.at position signals (.error e)) rfl
  | @finished _ position _ state' signals _ hnext =>
    have hfollows := follows_next harrived
    rw [hnext] at hfollows
    exact .finish (Visit.at position signals (.ok state')) rfl hfollows
  | @lost _ position _ state' signals target _ hnext =>
    have hfollows := follows_next harrived
    rw [hnext] at hfollows
    exact .lost (Visit.at position signals (.ok state')) rfl hfollows
  | @goesOn _ position _ _ state' signals _ _ hnext _ ih =>
    have hfollows := follows_next harrived
    rw [hnext] at hfollows
    exact .goesOn (Visit.at position signals (.ok state')) rfl hfollows
      (ih (arrived_of_next hnext))

end Workflow

/-- An event announces the step that is executed next. -/
def Event.announces : Event → Bool
  | stepBefore _ => true
  | stepAfter _ none => true
  | _ => false

section Announcements

variable {delivery : Delivery} {step : Step} {events : List Event}

/-- Pieces of text announce no step. -/
theorem filter_announces_tokens (tokens : List String) :
    (tokens.map Event.stepResultStream).filter Event.announces = [] := by
  rw [List.filter_eq_nil_iff, List.forall_mem_map]
  exact fun _ _ => Bool.false_ne_true

/-- A complete block announces its step and reports no failure. -/
theorem CompleteBlock.filter_eq (h : CompleteBlock delivery step events) :
    events.filter Event.announces = [step.announcement] ∧
      events.filter (·.kind = .stepError) = [] := by
  cases h with
  | generation hkind tokens _ response =>
    rw [Step.announcement, if_pos hkind]
    simp [List.filter_cons, List.filter_append, filter_announces_tokens, Event.announces,
      Event.ofResponse, Event.kind]
  | decision hkind state =>
    rw [Step.announcement, hkind]
    exact ⟨rfl, rfl⟩

/-- An incomplete block, too, announces its step and reports no failure of its own. -/
theorem IncompleteBlock.filter_eq (h : IncompleteBlock delivery step events) :
    events.filter Event.announces = [step.announcement] ∧
      events.filter (·.kind = .stepError) = [] := by
  obtain ⟨hkind, tokens, _⟩ := h
  rw [Step.announcement, if_pos hkind]
  simp [List.filter_cons, filter_announces_tokens, Event.announces, Event.kind]

/-- A visit announces its step and reports no failure. -/
theorem Visit.Executed.filter_eq {steps : Workflow} {state : Variables} {visit : Visit steps}
    (h : visit.Executed delivery state) :
    visit.events.filter Event.announces = [(steps.step visit.step).announcement] ∧
      visit.events.filter (·.kind = .stepError) = [] := by
  obtain ⟨signals, hsignals, hexecutes⟩ := h
  have hevents : visit.events =
      (steps.step visit.step).announcement :: signals.filterMap Signal.event? := by
    rw [Visit.events, hsignals]
    rfl
  rw [hevents]
  cases hresult : visit.result with
  | error e =>
    rw [hresult] at hexecutes
    exact hexecutes.incompleteBlock.filter_eq
  | ok state' =>
    rw [hresult] at hexecutes
    exact hexecutes.completeBlock.filter_eq

variable {steps : Workflow} {limit remaining : Nat} {position : Workflow.Position steps}
  {state : Variables} {journey : Journey steps}

/-- A journey announces the steps of its visits, one after the other. -/
theorem Journey.Walks.filter_announces
    (h : Journey.Walks delivery limit remaining position state journey) :
    journey.reports.filter Event.announces =
      journey.visits.map fun visit => (steps.step visit.step).announcement := by
  have hvisits : (journey.visits.flatMap Visit.events).filter Event.announces =
      journey.visits.map fun visit => (steps.step visit.step).announcement := by
    -- Every visit announces one step, its own.
    rw [List.filter_flatMap, List.map_eq_flatMap, List.flatMap_def, List.flatMap_def]
    refine congrArg List.flatten (List.map_congr_left fun visit hvisit => ?_)
    obtain ⟨_, hexecuted⟩ := h.executed_of_mem visit hvisit
    exact hexecuted.filter_eq.1
  rw [Journey.reports, List.filter_append, hvisits]
  cases journey.failure with
  | none => exact List.append_nil _
  | some failure => exact List.append_nil _

/-- A journey reports the failure with which it ends, and no other. -/
theorem Journey.Walks.filter_stepError
    (h : Journey.Walks delivery limit remaining position state journey) :
    journey.reports.filter (·.kind = .stepError) =
      journey.failure.toList.map fun failure =>
        .stepError failure.error.message failure.step := by
  have hvisits : (journey.visits.flatMap Visit.events).filter (·.kind = .stepError) = [] := by
    rw [List.filter_flatMap, List.flatMap_eq_nil_iff]
    intro visit hvisit
    obtain ⟨_, hexecuted⟩ := h.executed_of_mem visit hvisit
    exact hexecuted.filter_eq.2
  rw [Journey.reports, List.filter_append, hvisits]
  cases journey.failure with
  | none => rfl
  | some failure => rfl

end Announcements

/-- Every run of a workflow with a step that generates text takes a route from the first such step.
The steps of the route are announced one after the other, and the one failure that is reported, if
there is any, is the one with which the route ends. -/
theorem Workflow.run_route (setting : Setting ω) (steps : Workflow)
    (hsome : ∃ step ∈ steps, step.isPrompt = true) (state : Variables) (world : ω) :
    ∃ (start : Fin steps.length) (journey : Journey steps),
      (steps.journey? setting state world).1 = some journey ∧
      (steps.run setting state world).1 = ⟨journey.signals, journey.state⟩ ∧
      steps.IsFirst (fun i => (steps.step i).isPrompt = true) start ∧
      Route setting.configuration.run.maxSteps setting.configuration.run.maxSteps none start
        journey.visits journey.failure ∧
      (steps.run setting state world).1.events.filter Event.announces =
        journey.visits.map (fun visit => (steps.step visit.step).announcement) ∧
      (steps.run setting state world).1.events.filter (·.kind = .stepError) =
        journey.failure.toList.map fun failure =>
          .stepError failure.error.message failure.step := by
  rcases steps.journey?_cases setting state world with
    ⟨hnone, -⟩ | ⟨start, journey, hstart, hjourney, hwalks⟩
  · -- There is a step to start with, so the run has a journey.
    obtain ⟨step, hstep, hkind⟩ := hsome
    obtain ⟨i, rfl⟩ := exists_step hstep
    cases hkind.symm.trans (first?_eq_none.1 hnone i)
  · have hrun := run_eq_of_some setting state world hjourney
    have hevents : (steps.run setting state world).1.events =
        journey.reports ++ [.workflowDone journey.state none] := by
      rw [hrun]
      exact journey.filterMap_event?_signals
    refine ⟨start, journey, hjourney, hrun, first?_eq_some.1 hstart, ?_, ?_, ?_⟩
    · exact route_of_walks hwalks (.prompt (eq_true_of_first? hstart))
    · rw [hevents, List.filter_append, hwalks.filter_announces]
      exact List.append_nil _
    · rw [hevents, List.filter_append, hwalks.filter_stepError]
      exact List.append_nil _

/-- Runs without providers that may take `maxSteps` steps. -/
def simulated (maxSteps : Nat) : Setting Unit :=
  ⟨⟨⟨"", 0, maxSteps⟩, ⟨0, 0, "text"⟩⟩, [], .simulation, .blocking⟩

/-- A step `name` that may put out a `target` to go to. -/
def signpost (name : String) (instruction : Instruction) (target : Option String) : Step :=
  ⟨name, instruction, "", [], target.toList.map fun text => (Reserved.goto, .string text), "", none⟩

/-- Steps of which the first one is both chained to a deciding step and jumped to. -/
def signposts : Workflow :=
  [signpost "Reply" .after none, signpost "ask" .prompt none, signpost "reply" .prompt none,
    signpost "Look" .after none, signpost "end" .prompt none,
    signpost "End." .after (some "reply!")]

/-- In `signposts` the first step is followed by the step behind the one that it was chained to, and
later by the one behind itself. -/
theorem run_route_signposts :
    (∃ step ∈ signposts, step.isPrompt = true) ∧
      ∃ (start : Fin signposts.length) (journey : Journey signposts),
        (signposts.journey? (simulated 8) [] ()).1 = some journey ∧
        signposts.IsFirst (fun i => (signposts.step i).isPrompt = true) start ∧
        Workflow.Route 8 8 none start journey.visits journey.failure ∧
        journey.visits.map (fun visit => visit.step.val) = [1, 2, 0, 4, 5, 0, 1, 2] := by
  have hsome : ∃ step ∈ signposts, step.isPrompt = true := by decide
  have hpath : ((signposts.journey? (simulated 8) [] ()).1.map fun journey =>
      journey.visits.map fun visit => visit.step.val) = some [1, 2, 0, 4, 5, 0, 1, 2] := by
    decide +kernel
  obtain ⟨start, journey, hjourney, -, hstart, hroute, -⟩ :=
    Workflow.run_route (simulated 8) signposts hsome [] ()
  refine ⟨hsome, start, journey, hjourney, hstart, hroute, ?_⟩
  rw [hjourney] at hpath
  exact Option.some.inj hpath

end Promptbook
