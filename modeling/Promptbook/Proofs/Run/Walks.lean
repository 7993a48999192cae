import Promptbook.Proofs.Run.Executes
import Promptbook.Run.Journey

/-!
# What a Run Can Do

A run as a relation between the position and the state from which it goes on and the journey that it
makes. It has one rule for each way in which a run goes on or ends, so that a fact about runs is
proved by an induction with one case for each.

* `Visit.events`, `Journey.reports` — the events of an execution, and of a run up to its end.
* `Journey.Walks` — the journeys from a position and a state on.
* `Journey.walks_walk` — every run is such a journey.
* `Workflow.journey?_cases` — a workflow has no journey, or one from its first step that generates
  text.
* `Workflow.run_eq_of_some` — what a run leaves behind is put together from its journey.
-/

namespace Promptbook

variable {ω : Type} {steps : Workflow}

/-- The execution of the step at `position`, as a visit. -/
def Visit.at (position : Workflow.Position steps) (signals : List Signal)
    (result : Except Error Variables) : Visit steps :=
  ⟨position.step, .event (steps.step position.step).announcement :: signals, result⟩

/-- The events of `visit`. -/
def Visit.events (visit : Visit steps) : List Event :=
  visit.signals.filterMap Signal.event?

/-- The `visit` is an execution of its step from `state`, announced before. -/
def Visit.Executed (delivery : Delivery) (state : Variables) (visit : Visit steps) : Prop :=
  ∃ signals, visit.signals = .event (steps.step visit.step).announcement :: signals ∧
    (steps.step visit.step).Executes delivery state signals visit.result

/-- An execution at `position` makes a visit. -/
theorem Visit.executed_at {delivery : Delivery} {position : Workflow.Position steps}
    {state : Variables} {signals : List Signal} {result : Except Error Variables}
    (h : (steps.step position.step).Executes delivery state signals result) :
    (Visit.at position signals result).Executed delivery state :=
  ⟨signals, rfl, h⟩

namespace Journey

/-- The events of `journey`, without the end of the run. -/
def reports (journey : Journey steps) : List Event :=
  journey.visits.flatMap Visit.events ++ journey.failure.toList.map fun failure =>
    .stepError failure.error.message failure.step

/-- A journey that is over reports why, if it ended early. -/
@[simp] theorem reports_ended (state : Variables) (failure : Option Failure) :
    (ended state failure : Journey steps).reports =
      failure.toList.map fun failure => .stepError failure.error.message failure.step := rfl

/-- A journey reports its first `visit` first. -/
@[simp] theorem reports_after (visit : Visit steps) (rest : Journey steps) :
    (after visit rest).reports = visit.events ++ rest.reports := by
  simp [reports, after]

/-- The events of a run end with the report of the state. -/
theorem filterMap_event?_signals (journey : Journey steps) :
    journey.signals.filterMap Signal.event? =
      journey.reports ++ [.workflowDone journey.state none] := by
  have hvisits : (journey.visits.flatMap Visit.signals).filterMap Signal.event? =
      journey.visits.flatMap Visit.events := List.filterMap_flatMap
  have hfailure : journey.failureSignals.filterMap Signal.event? =
      journey.failure.toList.map fun failure =>
        .stepError failure.error.message failure.step := by
    unfold failureSignals
    rw [List.filterMap_map]
    exact congrFun List.filterMap_eq_map _
  unfold signals reports
  rw [List.filterMap_append, List.filterMap_append, hvisits, hfailure]
  rfl

/-- The journeys from a position and a state on, when text is reported as `delivery` says and the
run may take `limit` steps, of which `remaining` are left. -/
inductive Walks (delivery : Delivery) (limit : Nat) :
    (remaining : Nat) → Workflow.Position steps → Variables → Journey steps → Prop where
  /-- No step may be taken any more. -/
  | limit (position : Workflow.Position steps) (state : Variables) :
    Walks delivery limit 0 position state
      (ended state (some ⟨.stepLimit limit, (steps.step position.step).name⟩))
  /-- The step fails with `e`. -/
  | failed {remaining : Nat} {position : Workflow.Position steps} {state : Variables}
    {signals : List Signal} {e : Error}
    (hexecutes : (steps.step position.step).Executes delivery state signals (.error e)) :
    Walks delivery limit (remaining + 1) position state
      (after (.at position signals (.error e))
        (ended state (some ⟨e, (steps.step position.step).name⟩)))
  /-- The step is the last one. -/
  | finished {remaining : Nat} {position : Workflow.Position steps} {state state' : Variables}
    {signals : List Signal}
    (hexecutes : (steps.step position.step).Executes delivery state signals (.ok state'))
    (hnext : steps.next position = .finish) :
    Walks delivery limit (remaining + 1) position state
      (after (.at position signals (.ok state')) (ended state' none))
  /-- The step goes to `target`, which does not exist. -/
  | lost {remaining : Nat} {position : Workflow.Position steps} {state state' : Variables}
    {signals : List Signal} {target : String}
    (hexecutes : (steps.step position.step).Executes delivery state signals (.ok state'))
    (hnext : steps.next position = .missing target) :
    Walks delivery limit (remaining + 1) position state
      (after (.at position signals (.ok state'))
        (ended state' (some ⟨.stepNotFound target, (steps.step position.step).name⟩)))
  /-- The run goes on at `position'`. -/
  | goesOn {remaining : Nat} {position position' : Workflow.Position steps}
    {state state' : Variables} {signals : List Signal} {journey : Journey steps}
    (hexecutes : (steps.step position.step).Executes delivery state signals (.ok state'))
    (hnext : steps.next position = .go position')
    (hrest : Walks delivery limit remaining position' state' journey) :
    Walks delivery limit (remaining + 1) position state
      (after (.at position signals (.ok state')) journey)

/-- The journey that a run makes is one that walks from its position and state. -/
theorem walks_walk (setting : Setting ω) (remaining : Nat) (position : Workflow.Position steps)
    (state : Variables) (world : ω) :
    Walks setting.delivery setting.configuration.run.maxSteps remaining position state
      (walk setting remaining position state world).1 := by
  -- The induction is on the steps that are left, since a run may come back to a position.
  induction remaining generalizing position state world with
  | zero => exact .limit position state
  | succ remaining ih =>
    have hexecutes := (steps.step position.step).executes_execute setting state world
    obtain ⟨⟨⟨signals, result⟩, after⟩, hexecute⟩ :
      ∃ r, (steps.step position.step).execute setting state world = r := ⟨_, rfl⟩
    rw [hexecute] at hexecutes
    simp only [walk, bind, StateT.bind, hexecute]
    cases result with
    | error e => exact .failed hexecutes
    | ok state' =>
      cases hnext : steps.next position with
      | finish => exact .finished hexecutes hnext
      | missing target => exact .lost hexecutes hnext
      | go position' => exact .goesOn hexecutes hnext (ih position' state' after)

/-- Every visit of a run is an execution of its step in some world, announced before. -/
theorem exists_execute_of_mem (setting : Setting ω) (remaining : Nat)
    (position : Workflow.Position steps) (state : Variables) (world : ω) :
    ∀ visit ∈ (walk setting remaining position state world).1.visits, ∃ state world,
      visit.signals = .event (steps.step visit.step).announcement ::
          ((steps.step visit.step).execute setting state world).1.1 ∧
        visit.result = ((steps.step visit.step).execute setting state world).1.2 := by
  induction remaining generalizing position state world with
  | zero => exact nofun
  | succ remaining ih =>
    obtain ⟨⟨⟨signals, result⟩, after⟩, hexecute⟩ :
      ∃ r, (steps.step position.step).execute setting state world = r := ⟨_, rfl⟩
    -- The first visit is executed here; those behind it are a walk with fewer visits left.
    have hfirst : ∃ state world, .event (steps.step position.step).announcement :: signals =
          Signal.event (steps.step position.step).announcement ::
            ((steps.step position.step).execute setting state world).1.1 ∧
        result = ((steps.step position.step).execute setting state world).1.2 :=
      ⟨state, world, by rw [hexecute], by rw [hexecute]⟩
    simp only [walk, bind, StateT.bind, hexecute]
    cases result with
    | error e => exact List.forall_mem_singleton.2 hfirst
    | ok state' =>
      cases steps.next position with
      | finish => exact List.forall_mem_singleton.2 hfirst
      | missing target => exact List.forall_mem_singleton.2 hfirst
      | go position' => exact List.forall_mem_cons.2 ⟨hfirst, ih position' state' after⟩

/-- A visit that fails is the last one, and its failure is that of the journey. -/
theorem Walks.failure_of_append {delivery : Delivery} {limit remaining : Nat}
    {position : Workflow.Position steps} {state : Variables} {journey : Journey steps}
    (h : Walks delivery limit remaining position state journey)
    {earlier : List (Visit steps)} {visit : Visit steps} {later : List (Visit steps)}
    (hvisits : journey.visits = earlier ++ visit :: later) {e : Error}
    (hresult : visit.result = .error e) :
    later = [] ∧ journey.failure = some ⟨e, (steps.step visit.step).name⟩ := by
  induction h generalizing earlier with
  | limit => exact absurd hvisits.symm (by simp [ended])
  | failed =>
    -- There is one visit only.
    obtain ⟨rfl, rfl, rfl⟩ : earlier = [] ∧ visit = _ ∧ later = [] := by
      simpa [after, ended, List.append_eq_singleton_iff, List.singleton_eq_append_iff] using hvisits
    cases hresult
    exact ⟨rfl, rfl⟩
  | finished | lost =>
    -- The only visit completes.
    obtain rfl : visit = _ := List.mem_singleton.1 (hvisits ▸ List.mem_append_right _ (.head _))
    cases hresult
  | goesOn _ _ _ ih =>
    cases earlier with
    | nil =>
      obtain ⟨rfl, -⟩ := List.cons.inj hvisits
      cases hresult
    | cons first earlier => exact ih (List.cons.inj hvisits).2

/-- Every visit of a journey is an execution of its step. -/
theorem Walks.executed_of_mem {delivery : Delivery} {limit remaining : Nat}
    {position : Workflow.Position steps} {state : Variables} {journey : Journey steps}
    (h : Walks delivery limit remaining position state journey) :
    ∀ visit ∈ journey.visits, ∃ state, visit.Executed delivery state := by
  induction h with
  | limit => exact nofun
  | failed hexecutes | finished hexecutes | lost hexecutes =>
    exact List.forall_mem_singleton.2 ⟨_, Visit.executed_at hexecutes⟩
  | goesOn hexecutes _ _ ih =>
    exact List.forall_mem_cons.2 ⟨⟨_, Visit.executed_at hexecutes⟩, ih⟩

end Journey

namespace Workflow

/-- A workflow with a first step `start` that generates text has the journey from there. -/
theorem journey?_of_some (setting : Setting ω) {start : Fin steps.length} (state : Variables)
    (world : ω) (hstart : steps.firstPrompt? = some start) :
    (steps.journey? setting state world).1 =
      some (Journey.walk setting setting.configuration.run.maxSteps ⟨start, none⟩ state
        world).1 := by
  unfold journey?
  rw [hstart]
  rfl

/-- Without a step that generates text there is no journey. -/
theorem journey?_of_none (setting : Setting ω) (state : Variables) (world : ω)
    (hnone : steps.firstPrompt? = none) : (steps.journey? setting state world).1 = none := by
  unfold journey?
  rw [hnone]
  rfl

/-- Without a journey, a run leaves behind that it has not started. -/
theorem run_eq_of_none (setting : Setting ω) {steps : Workflow} (state : Variables) (world : ω)
    (hnone : (steps.journey? setting state world).1 = none) :
    (steps.run setting state world).1 = .unstarted state := by
  obtain ⟨⟨found, after⟩, hjourney⟩ : ∃ r, steps.journey? setting state world = r := ⟨_, rfl⟩
  rw [hjourney] at hnone
  cases hnone
  simp only [run, bind, StateT.bind, hjourney]
  rfl

/-- What a run leaves behind is put together from its `journey`. -/
theorem run_eq_of_some (setting : Setting ω) {steps : Workflow} (state : Variables) (world : ω)
    {journey : Journey steps} (hsome : (steps.journey? setting state world).1 = some journey) :
    (steps.run setting state world).1 = ⟨journey.signals, journey.state⟩ := by
  obtain ⟨⟨found, after⟩, hjourney⟩ : ∃ r, steps.journey? setting state world = r := ⟨_, rfl⟩
  rw [hjourney] at hsome
  cases hsome
  simp only [run, bind, StateT.bind, hjourney]
  rfl

/-- A run has no journey if no step generates text. Otherwise it starts at the first such step. -/
theorem journey?_cases (setting : Setting ω) (steps : Workflow) (state : Variables) (world : ω) :
    (steps.firstPrompt? = none ∧ (steps.journey? setting state world).1 = none) ∨
      ∃ start journey, steps.firstPrompt? = some start ∧
        (steps.journey? setting state world).1 = some journey ∧
        Journey.Walks setting.delivery setting.configuration.run.maxSteps
          setting.configuration.run.maxSteps ⟨start, none⟩ state journey := by
  cases hstart : steps.firstPrompt? with
  | none => exact .inl ⟨rfl, journey?_of_none setting state world hstart⟩
  | some start =>
    exact .inr ⟨start, _, rfl, journey?_of_some setting state world hstart,
      Journey.walks_walk setting _ _ state world⟩

end Workflow

end Promptbook
