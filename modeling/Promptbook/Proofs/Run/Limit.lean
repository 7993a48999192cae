import Promptbook.Proofs.Run.Course
import Promptbook.Proofs.Run.State

/-!
# The Limit of a Run

A run takes no more steps than its limit allows, also if its steps jump in a circle. It reports that
it has come to the limit exactly if another step would be due. What it has done until then does not
depend on the limit: with a larger one it begins in the same way.

## Main definitions

* `Workflow.Due`: the step that is due after some visits. It does not speak of a limit.
* `RunRecord.ReportsLimit`: behind complete steps, a run reports that it may not take another one.
* `RunRecord.Limited`: how a run and its limit go together.
* `Setting.limited`: a setting with another limit.

## Main results

* `Journey.Walks.due_iff`: a journey fails at its limit exactly if a step is due at its end.
* `Journey.walk_limited`: with a larger limit a journey is the same or goes on where it had to stop.
* `Workflow.run_limit`: every run keeps to its limit, and if the answers of providers are functions
  of the requests, a larger limit does not change what a run has done before.
-/

namespace Promptbook

variable {ω : Type} {steps : Workflow}

/-- The step of `visit` has not failed. -/
def Visit.Completes (visit : Visit steps) : Prop :=
  ∃ state, visit.result = .ok state

/-- Whether a visit completes can be seen from its result. -/
instance (visit : Visit steps) : Decidable visit.Completes :=
  match h : visit.result with
  | .ok state => .isTrue ⟨state, h⟩
  | .error _ => .isFalse fun ⟨_, hresult⟩ => nomatch h.symm.trans hresult

/-- The step `due` is due after visits from the step `i` on, behind the step `previous`: every visit
completes and is followed by the next one, the last one by the step that is due. -/
def Workflow.Due (steps : Workflow) : (previous : Option (Fin steps.length)) →
    (i : Fin steps.length) → List (Visit steps) → (due : Fin steps.length) → Prop
  | _, i, [], due => due = i
  | previous, i, visit :: visits, due =>
    visit.step = i ∧ visit.Completes ∧
      ∃ j, steps.Follows previous i (.step j) ∧ steps.Due (some i) j visits due

/-- Behind `visits` that are all complete, a run reports that it may not take the step `name` any
more. -/
def RunRecord.ReportsLimit (limit : Nat) (visits : List (Visit steps)) (record : RunRecord)
    (name : String) : Prop :=
  (∀ visit ∈ visits, visit.Completes) ∧
    record.events = visits.flatMap Visit.events ++
      [.stepError (Error.stepLimit limit).message name, .workflowDone record.state none]

/-- Whether the limit is reported can be seen from the visits and the events. -/
instance (limit : Nat) (visits : List (Visit steps)) (record : RunRecord) (name : String) :
    Decidable (record.ReportsLimit limit visits name) :=
  inferInstanceAs (Decidable (_ ∧ _))

/-- A run with `visits` keeps to its `limit`. -/
structure RunRecord.Limited (limit : Nat) (visits : List (Visit steps)) (record : RunRecord) :
    Prop where
  /-- The steps of the visits are announced, one after the other. -/
  announced : record.events.filter Event.announces =
    visits.map fun visit => (steps.step visit.step).announcement
  /-- There are no more visits than allowed. -/
  atMost : visits.length ≤ limit
  /-- The run ends. -/
  ends : ∃ earlier error, record.events = earlier ++ [.workflowDone record.state error]
  /-- The limit is reported exactly if a step is due after the visits, with the name of that
  step. -/
  due : ∀ name, record.ReportsLimit limit visits name ↔
    ∃ start due, steps.IsFirst (fun i => (steps.step i).isPrompt = true) start ∧
      steps.Due none start visits due ∧ (steps.step due).name = name
  /-- If the limit is reported, as many steps as are allowed have been executed. -/
  exact : ∀ name, record.ReportsLimit limit visits name → visits.length = limit

/-- Without the report of the limit and the end of the run, the events are those of `visits`. -/
theorem RunRecord.ReportsLimit.dropLast_dropLast {limit : Nat} {visits : List (Visit steps)}
    {record : RunRecord} {name : String} (h : record.ReportsLimit limit visits name) :
    record.events.dropLast.dropLast = visits.flatMap Visit.events := by
  rw [h.2, List.dropLast_append_of_ne_nil (List.cons_ne_nil _ _)]
  exact List.dropLast_concat

/-- The same `setting` with another `limit`. -/
def Setting.limited (setting : Setting ω) (limit : Nat) : Setting ω :=
  { setting with configuration.run.maxSteps := limit }

/-- The limit has no influence on how the text of `step` is obtained. -/
theorem Step.respond_limited (setting : Setting ω) (limit : Nat) (step : Step) :
    step.respond (setting.limited limit) = step.respond setting := by
  simp only [respond, Setting.limited, Generation.respond, Generation.modelOf,
    Generation.temperatureOf]

/-- The limit has no influence on the execution of `step`. -/
theorem Step.execute_limited (setting : Setting ω) (limit : Nat) (step : Step) :
    step.execute (setting.limited limit) = step.execute setting := by
  unfold execute
  rw [respond_limited]

/-- The report of the limit is not that of a missing step: they begin with different letters. -/
theorem Error.message_stepNotFound_ne (target : String) (limit : Nat) :
    (stepNotFound target).message ≠ (stepLimit limit).message := by
  have hmissing : (stepNotFound target).message.toList.head? = some 'C' := by
    show ("Could not find next step: " ++ target).toList.head? = _
    rw [String.toList_append, List.head?_append]
    rfl
  have hlimit : (stepLimit limit).message.toList.head? = some 'S' := by
    show ("Step limit of " ++ toString limit ++ " exceeded").toList.head? = _
    rw [String.toList_append, String.toList_append, List.head?_append, List.head?_append]
    rfl
  intro h
  rw [h, hlimit] at hmissing
  exact absurd hmissing (by decide)

namespace Journey

/-- A journey fails since it may not take the step `name` any more, and not since one of its steps
has failed. -/
def Overruns (limit : Nat) (journey : Journey steps) (name : String) : Prop :=
  (∀ visit ∈ journey.visits, visit.Completes) ∧ journey.failure = some ⟨.stepLimit limit, name⟩

/-- A journey that begins with `visits` reports their events first. -/
theorem flatMap_events_prefix (journey : Journey steps) {visits : List (Visit steps)}
    (h : visits <+: journey.visits) :
    visits.flatMap Visit.events <+: journey.signals.filterMap Signal.event? := by
  rw [journey.filterMap_event?_signals, reports, List.append_assoc]
  obtain ⟨rest, hvisits⟩ := h
  rw [← hvisits, List.flatMap_append, List.append_assoc]
  exact List.prefix_append _ _

section Walks

variable {delivery : Delivery} {limit remaining : Nat} {position : Workflow.Position steps}
  {state : Variables} {journey : Journey steps} {previous : Option (Fin steps.length)}

/-- A journey takes at most `remaining` steps. -/
theorem Walks.length_visits_le (h : Walks delivery limit remaining position state journey) :
    journey.visits.length ≤ remaining := by
  induction h with
  | limit => exact Nat.le_refl 0
  | failed | finished | lost => exact Nat.succ_le_succ (Nat.zero_le _)
  | goesOn _ _ _ ih => exact Nat.succ_le_succ ih

/-- A journey that fails at its limit has taken all steps that were left. -/
theorem Walks.length_visits_of_overruns
    (h : Walks delivery limit remaining position state journey) {name : String}
    (hoverruns : journey.Overruns limit name) : journey.visits.length = remaining := by
  induction h with
  | limit => rfl
  | failed =>
    obtain ⟨_, hresult⟩ := hoverruns.1 _ List.mem_cons_self
    cases hresult
  | finished | lost => cases hoverruns.2
  | goesOn _ _ _ ih =>
    exact congrArg (· + 1) (ih ⟨(List.forall_mem_cons.1 hoverruns.1).2, hoverruns.2⟩)

/-- A journey whose steps all complete ends at its limit, or at a step that does not exist, or with
success. -/
theorem Walks.failure_cases (h : Walks delivery limit remaining position state journey)
    (hcomplete : ∀ visit ∈ journey.visits, visit.Completes) :
    journey.failure = none ∨ (∃ name, journey.failure = some ⟨.stepLimit limit, name⟩) ∨
      ∃ target name, journey.failure = some ⟨.stepNotFound target, name⟩ := by
  induction h with
  | limit => exact .inr (.inl ⟨_, rfl⟩)
  | failed =>
    obtain ⟨_, hresult⟩ := hcomplete _ List.mem_cons_self
    cases hresult
  | finished => exact .inl rfl
  | lost => exact .inr (.inr ⟨_, _, rfl⟩)
  | goesOn _ _ _ ih => exact ih (List.forall_mem_cons.1 hcomplete).2

/-- What a journey reports tells whether it fails at its limit. -/
theorem Walks.reportsLimit_iff (h : Walks delivery limit remaining position state journey)
    {name : String} :
    RunRecord.ReportsLimit limit journey.visits ⟨journey.signals, journey.state⟩ name ↔
      journey.Overruns limit name := by
  refine and_congr_right fun hcomplete => ?_
  show journey.signals.filterMap Signal.event? = _ ↔ _
  rw [journey.filterMap_event?_signals, reports, List.append_assoc, List.append_cancel_left_eq]
  rcases h.failure_cases hcomplete with hnone | ⟨other, hlimit⟩ | ⟨target, other, hmissing⟩
  · simp [hnone]
  · simp [hlimit]
  · -- Both are failures, but their messages differ.
    simp [hmissing, Error.message_stepNotFound_ne]

/-- A journey fails at its limit exactly if a step is due at its end. -/
theorem Walks.due_iff (h : Walks delivery limit remaining position state journey)
    (harrived : steps.Arrived previous position) {name : String} :
    (∃ due, steps.Due previous position.step journey.visits due ∧ (steps.step due).name = name) ↔
      journey.Overruns limit name := by
  induction h generalizing previous with
  | limit position state =>
    constructor
    · rintro ⟨_, rfl, rfl⟩
      exact ⟨nofun, rfl⟩
    · rintro ⟨-, hfailure⟩
      cases hfailure
      exact ⟨_, rfl, rfl⟩
  | failed =>
    -- A step that fails leaves no step due, and its failure is its own.
    constructor
    · rintro ⟨_, ⟨-, ⟨_, hresult⟩, -⟩, -⟩
      cases hresult
    · rintro ⟨hcomplete, -⟩
      obtain ⟨_, hresult⟩ := hcomplete _ List.mem_cons_self
      cases hresult
  | finished _ hnext | lost _ hnext =>
    -- What follows is not a step.
    constructor
    · rintro ⟨_, ⟨-, -, _, hfollows, -⟩, -⟩
      rw [Workflow.follows_iff harrived, hnext] at hfollows
      cases hfollows
    · rintro ⟨-, hfailure⟩
      cases hfailure
  | @goesOn _ position position' _ state' signals journey _ hnext _ ih =>
    have hrest := ih (Workflow.arrived_of_next hnext)
    have hfollows := Workflow.follows_next harrived
    rw [hnext] at hfollows
    constructor
    · rintro ⟨due, ⟨-, -, j, hfollows', hdue⟩, hname⟩
      -- What follows is the step that the journey goes to.
      cases hfollows.unique harrived hfollows'
      obtain ⟨hcomplete, hfailure⟩ := hrest.1 ⟨due, hdue, hname⟩
      exact ⟨List.forall_mem_cons.2 ⟨⟨state', rfl⟩, hcomplete⟩, hfailure⟩
    · rintro ⟨hcomplete, hfailure⟩
      obtain ⟨due, hdue, hname⟩ := hrest.2 ⟨(List.forall_mem_cons.1 hcomplete).2, hfailure⟩
      exact ⟨due, ⟨rfl, ⟨state', rfl⟩, position'.step, hfollows, hdue⟩, hname⟩

end Walks

/-- With a larger limit, whatever the world, a journey is the same, or it has had to stop and now
goes on from there. -/
theorem walk_limited {setting : Setting ω} (hfunctional : setting.Functional) (limit : Nat)
    {remaining remaining' : Nat} (hle : remaining ≤ remaining')
    (position : Workflow.Position steps) (state : Variables) (world world' : ω) :
    let journey := (walk setting remaining position state world).1
    let longer := (walk (setting.limited limit) remaining' position state world').1
    longer = journey ∨
      (∃ name, journey.Overruns setting.configuration.run.maxSteps name) ∧
        journey.visits <+: longer.visits := by
  induction remaining generalizing remaining' position state world world' with
  | zero => exact .inr ⟨⟨_, nofun, rfl⟩, List.nil_prefix⟩
  | succ remaining ih =>
    obtain ⟨remaining', rfl⟩ : ∃ n, remaining' = n + 1 := ⟨remaining' - 1, by omega⟩
    have hsame := hfunctional.fst_execute (steps.step position.step) world world' state
    -- Both journeys begin with the same execution, whose signals and result are shared.
    simp only [walk, bind, StateT.bind, Step.execute_limited]
    generalize (steps.step position.step).execute setting state world = execution at hsame ⊢
    generalize (steps.step position.step).execute setting state world' = execution' at hsame ⊢
    obtain ⟨⟨signals, result⟩, after⟩ := execution
    obtain ⟨outcome', after'⟩ := execution'
    cases hsame
    cases result with
    | error e => exact .inl rfl
    | ok state' =>
      cases steps.next position with
      | finish => exact .inl rfl
      | missing target => exact .inl rfl
      | go position' =>
        rcases ih (Nat.le_of_succ_le_succ hle) position' state' after after' with
          hsame | ⟨⟨name, hcomplete, hfailure⟩, hbegins⟩
        · exact .inl (congrArg (Journey.after _) hsame)
        · refine .inr ⟨⟨name, List.forall_mem_cons.2 ⟨⟨state', rfl⟩, hcomplete⟩, hfailure⟩, ?_⟩
          exact (List.prefix_cons_inj _).2 hbegins

end Journey

/-- A journey from the first step `start` that generates text keeps to its limit. -/
theorem Journey.Walks.limited {delivery : Delivery} {limit : Nat} {start : Fin steps.length}
    {state : Variables} {journey : Journey steps}
    (h : Walks delivery limit limit ⟨start, none⟩ state journey)
    (hstart : steps.firstPrompt? = some start) :
    RunRecord.Limited limit journey.visits ⟨journey.signals, journey.state⟩ where
  announced := by
    show (journey.signals.filterMap Signal.event?).filter Event.announces = _
    rw [journey.filterMap_event?_signals, List.filter_append, h.filter_announces]
    exact List.append_nil _
  atMost := h.length_visits_le
  ends := ⟨_, _, journey.filterMap_event?_signals⟩
  due name := by
    have hfirst := Workflow.first?_eq_some.1 hstart
    rw [h.reportsLimit_iff, ← h.due_iff (.prompt hfirst.1)]
    constructor
    · rintro ⟨due, hdue, hname⟩
      exact ⟨start, due, hfirst, hdue, hname⟩
    · rintro ⟨start', due, hfirst', hdue, hname⟩
      -- There is only one first step.
      cases hstart.symm.trans (Workflow.first?_eq_some.2 hfirst')
      exact ⟨due, hdue, hname⟩
  exact _ hreports := h.length_visits_of_overruns (h.reportsLimit_iff.1 hreports)

/-- A run that does not start takes no step, and none is due. -/
theorem RunRecord.limited_unstarted (limit : Nat) (state : Variables)
    (hnone : steps.firstPrompt? = none) :
    RunRecord.Limited limit ([] : List (Visit steps)) (.unstarted state) where
  announced := rfl
  atMost := Nat.zero_le _
  ends := ⟨[], _, rfl⟩
  due name := by
    constructor
    · rintro ⟨-, hevents⟩
      cases hevents
    · rintro ⟨start, _, hfirst, -⟩
      cases hnone.symm.trans (Workflow.first?_eq_some.2 hfirst)
  exact _ hreports := by cases hreports.2

/-- Every run keeps to its limit. If the answers of providers are functions of the requests, a run
with a larger limit, in whatever world, is the same if the limit has not been reported, and
otherwise its events begin with those up to the report. -/
theorem Workflow.run_limit (setting : Setting ω) (steps : Workflow) (state : Variables)
    (world : ω) :
    let limit := setting.configuration.run.maxSteps
    let visits := steps.visits setting state world
    let record := (steps.run setting state world).1
    record.Limited limit visits ∧
      (setting.Functional → ∀ limit', limit ≤ limit' → ∀ world',
        let longer := (steps.run (setting.limited limit') state world').1
        ((∀ name, ¬ record.ReportsLimit limit visits name) → longer = record) ∧
          ∀ name, record.ReportsLimit limit visits name →
            record.events.dropLast.dropLast <+: longer.events) := by
  simp only
  cases hstart : steps.firstPrompt? with
  | none =>
    rw [visits_of_none setting state world hstart,
      run_eq_of_none setting state world (journey?_of_none setting state world hstart)]
    refine ⟨RunRecord.limited_unstarted _ state hstart, fun _ limit' _ world' => ?_⟩
    rw [run_eq_of_none _ state world'
      (journey?_of_none (setting.limited limit') state world' hstart)]
    exact ⟨fun _ => rfl, fun name hreports => by cases hreports.2⟩
  | some start =>
    rw [visits_of_some setting state world hstart,
      run_eq_of_some setting state world (journey?_of_some setting state world hstart)]
    -- The two parts are about the walk from the first PROMPT: what it is, and what a longer one is.
    have hwalks := Journey.walks_walk setting setting.configuration.run.maxSteps ⟨start, none⟩ state
      world
    refine ⟨hwalks.limited hstart, fun hfunctional limit' hle world' => ?_⟩
    rw [run_eq_of_some _ state world'
      (journey?_of_some (setting.limited limit') state world' hstart)]
    -- The walk with the larger limit ends as this one does, or it begins with what this one did and
    -- a step is still due.
    rcases Journey.walk_limited hfunctional limit' hle ⟨start, none⟩ state world world' with
      hsame | ⟨⟨name, hoverruns⟩, hbegins⟩
    · rw [show (setting.limited limit').configuration.run.maxSteps = limit' from rfl, hsame]
      refine ⟨fun _ => rfl, fun _ _ => ?_⟩
      exact (List.dropLast_prefix _).trans (List.dropLast_prefix _)
    · refine ⟨fun hnot => absurd (hwalks.reportsLimit_iff.2 hoverruns) (hnot name), ?_⟩
      intro _ hreports
      rw [hreports.dropLast_dropLast]
      exact Journey.flatMap_events_prefix _ hbegins

/-- A provider that answers with the prompt. The world counts how often it has been asked. -/
def echo : Provider Nat where
  name := "echo"
  generate request := do
    modify (· + 1)
    return .ok (.ofText "echo" request.prompt)
  pieces := none

/-- Runs that ask `echo` and may take three steps. -/
def echoing : Setting Nat :=
  ⟨⟨⟨"echo/any", 0, 3⟩, ⟨0, 0, ""⟩⟩, .ofList [echo], .execution, .stream⟩

/-- The only provider of these runs is `echo`. -/
theorem eq_echo {name : String} {provider : Provider Nat}
    (hfound : Fields.value? echoing.providers name = some provider) : provider = echo := by
  have hknown : Fields.value? [("echo", echo)] name = some provider := hfound
  rw [Fields.value?_cons] at hknown
  split at hknown
  · cases hknown
    rfl
  · cases hknown

/-- The answers of `echo` are functions of the requests, though it changes the world. -/
theorem functional_echoing : echoing.Functional := by
  intro _ name provider hfound
  cases eq_echo hfound
  exact ⟨fun _ _ _ => rfl, nofun⟩

/-- Two steps that follow each other without end. -/
def roundabout : Workflow :=
  [⟨"Ask", .prompt, "", [], [], "Who?", none⟩, signpost "ask" .after (some "ask")]

/-- With a limit of three the run of `roundabout` reports that the fourth step is due, and with a
limit of five it begins in the same way. -/
theorem run_limit_roundabout :
    echoing.Functional ∧ 3 ≤ 5 ∧
      (roundabout.run echoing [] 0).1.ReportsLimit 3 (roundabout.visits echoing [] 0) "ask" ∧
      (roundabout.run echoing [] 0).1.events.dropLast.dropLast <+:
        (roundabout.run (echoing.limited 5) [] 7).1.events := by
  have hreports : (roundabout.run echoing [] 0).1.ReportsLimit 3
      (roundabout.visits echoing [] 0) "ask" := by decide +kernel
  exact ⟨functional_echoing, by decide, hreports,
    ((Workflow.run_limit echoing roundabout [] 0).2 functional_echoing 5 (by decide) 7).2 _
      hreports⟩

end Promptbook
