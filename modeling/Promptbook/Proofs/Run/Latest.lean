import Mathlib.Data.List.Induction
import Promptbook.Proofs.Run.Course
import Promptbook.Proofs.Run.State

/-!
# The Last Text in the State of a Run

Three fields of the state tell of the text that was generated last: two hold the text and one its
length. The inputs of a generating step cannot hide it, because the text is recorded behind them. A
deciding step lays its inputs over the state and records nothing. If they have one of these names,
the field has their value until another text is generated.

## Main definitions

* `Event.lastGenerated?`: the text that was generated last, read off the events.
* `laidSince?`: what deciding steps have given to a name since then.
* `Tells`: a state tells of a text, up to what deciding steps have given to its fields.
* `RunRecord.Latest`: every state of a run that is shown, and the one that is returned, tell of the
  text that was generated last.

## Main results

* `Visit.Executed.generated_or_laid`: a visit has generated a text, or what it writes is what a
  deciding step lays over the state.
* `value?_threaded_of_lastGenerated?`: the invariant of the run, by induction on its visits.
* `Workflow.run_latest`: the states of every run tell of the text that was generated last.
* `run_fedBack`: inputs of a deciding step do hide it.
-/

namespace Promptbook

variable {ω : Type} {steps : Workflow} {delivery : Delivery}

/-- The text that has been generated last when `events` have been reported. -/
def Event.lastGenerated? (events : List Event) : Option String :=
  events.reverse.findSome? Event.generated?

/-- The value that the inputs of a deciding step give to `name`. -/
def Visit.laid? (name : String) (visit : Visit steps) : Option Value :=
  if (steps.step visit.step).isPrompt then none
  else (Fields.collect (steps.step visit.step).inputs).value? name

/-- The value that deciding steps have given to `name` since a text was generated, the last one of
them if there are several. -/
def laidSince? (visits : List (Visit steps)) (name : String) : Option Value :=
  (visits.reverse.takeWhile fun visit => (Event.lastGenerated? visit.events).isNone).findSome?
    (Visit.laid? name)

/-- The `state` tells of `text`, except in the fields to which deciding steps among `visits` have
given other values since. -/
structure Tells (visits : List (Visit steps)) (text : String) (state : Variables) : Prop where
  /-- The result is `text`. -/
  result : state.value? Reserved.result =
    (laidSince? visits Reserved.result).or (some (.string text))
  /-- The last text is `text`. -/
  lastText : state.value? Reserved.lastText =
    (laidSince? visits Reserved.lastText).or (some (.string text))
  /-- The last length is the number of characters of `text`. -/
  lastLength : state.value? Reserved.lastLength =
    (laidSince? visits Reserved.lastLength).or (some (.int text.length))

/-- The states of a run tell of the text that was generated last. -/
structure RunRecord.Latest (visits : List (Visit steps)) (record : RunRecord) : Prop where
  /-- A text has been generated during a visit exactly if the step generates text and completes. -/
  generated : ∀ visit ∈ visits, (Event.lastGenerated? visit.events).isSome = true ↔
    (steps.step visit.step).isPrompt = true ∧ ∃ result, visit.result = .ok result
  /-- The state `seen` that a deciding step shows tells of the text that was generated last before
  it, up to the inputs of this step and of the deciding steps before it. -/
  shown : ∀ before name seen after text,
    record.events = before ++ .stepAfter name (some seen) :: after →
      Event.lastGenerated? before = some text →
        ∃ earlier visit later, visits = earlier ++ visit :: later ∧
          (steps.step visit.step).isPrompt = false ∧ (steps.step visit.step).name = name ∧
          before = earlier.flatMap Visit.events ++ [.stepAfter name none] ∧
          Tells (earlier ++ [visit]) text seen
  /-- The state that is returned tells of the text that was generated last of all. -/
  returned : ∀ text, Event.lastGenerated? record.events = some text →
    Tells visits text record.state

section Events

variable {visits : List (Visit steps)} {visit : Visit steps}

/-- The text generated last is that of the `later` events, if they report one. -/
theorem Event.lastGenerated?_append (events later : List Event) :
    lastGenerated? (events ++ later) = (lastGenerated? later).or (lastGenerated? events) := by
  rw [lastGenerated?, List.reverse_append, List.findSome?_append]
  rfl

/-- There is no text generated last exactly if none of `events` reports one. -/
theorem Event.lastGenerated?_eq_none {events : List Event} :
    lastGenerated? events = none ↔ ∀ event ∈ events, event.generated? = none := by
  rw [lastGenerated?, List.findSome?_eq_none_iff]
  simp only [List.mem_reverse]

/-- With one more `visit`, the text generated last is that of the visit, if it has generated one. -/
theorem lastGenerated?_flatMap_concat :
    Event.lastGenerated? ((visits ++ [visit]).flatMap Visit.events) =
      (Event.lastGenerated? visit.events).or
        (Event.lastGenerated? (visits.flatMap Visit.events)) := by
  rw [List.flatMap_append, List.flatMap_singleton, Event.lastGenerated?_append]

/-- With one more `visit`, deciding steps have given nothing to `name` if it generates a text, and
otherwise what the visit gives or else what was given before. -/
theorem laidSince?_concat (name : String) : laidSince? (visits ++ [visit]) name =
    if (Event.lastGenerated? visit.events).isNone then
      (visit.laid? name).or (laidSince? visits name)
    else none := by
  rw [laidSince?, List.reverse_append, List.reverse_singleton, List.singleton_append,
    List.takeWhile_cons]
  split
  · rw [List.findSome?_cons]
    cases visit.laid? name <;> rfl
  · rfl

end Events

section Visits

variable {state : Variables} {visit : Visit steps}

/-- Pieces of a text behind the announcement of `step` report no generated text. -/
theorem OnlyTokens.lastGenerated?_announced {signals : List Signal}
    (h : OnlyTokens delivery signals) (step : Step) :
    Event.lastGenerated? (step.announcement :: signals.filterMap Signal.event?) = none := by
  obtain ⟨tokens, hsignals, -⟩ := h
  rw [Event.lastGenerated?_eq_none, hsignals, List.forall_mem_cons, List.forall_mem_map]
  exact ⟨step.generated?_announcement, fun _ _ => rfl⟩

/-- A visit has generated a text and writes what tells of it, or what it writes is what a deciding
step lays over the state. -/
theorem Visit.Executed.generated_or_laid (h : visit.Executed delivery state) :
    ((steps.step visit.step).isPrompt = true ∧ (∃ result, visit.result = .ok result) ∧
        Event.lastGenerated? visit.events = some visit.text ∧
        ∀ name value, (∀ milliseconds,
          (recordText [] visit.text milliseconds).value? name = some value) →
            visit.written.value? name = some value) ∨
      (¬ ((steps.step visit.step).isPrompt = true ∧ ∃ result, visit.result = .ok result) ∧
        Event.lastGenerated? visit.events = none ∧
        ∀ name, visit.written.value? name = visit.laid? name) := by
  obtain ⟨signals, hsignals, hexecutes⟩ := h
  have hevents : visit.events = (steps.step visit.step).announcement ::
      signals.filterMap Signal.event? := by
    rw [events, hsignals]
    rfl
  generalize hresult : visit.result = result at hexecutes
  -- A decision lays values over the state, a generation records its text, and a failure writes
  -- nothing.
  cases hexecutes with
  | decision hkind =>
    refine .inr ⟨fun hprompt => ?_, ?_, fun name => ?_⟩
    · cases hkind.symm.trans hprompt.1
    · rw [hevents, Event.lastGenerated?_eq_none, List.forall_mem_cons]
      exact ⟨(steps.step visit.step).generated?_announcement, List.forall_mem_singleton.2 rfl⟩
    · simp only [written, update, hresult, laid?, hkind, Bool.false_eq_true, if_false]
      rfl
  | generation hkind htokens response =>
    refine .inl ⟨hkind, ⟨_, rfl⟩, ?_, fun name value hname => ?_⟩
    · rw [text_eq hsignals htokens, hevents, List.filterMap_append, ← List.cons_append,
        Event.lastGenerated?_append]
      rfl
    · simp only [written, update, hresult, hkind, if_true]
      rw [value?_recordText, hname]
      rfl
  | failure hkind htokens e =>
    refine .inr ⟨?_, ?_, fun name => ?_⟩
    · rintro ⟨-, _, hok⟩
      cases hok
    · rw [hevents, htokens.lastGenerated?_announced]
    · simp only [written, update, hresult, laid?, hkind, if_true]
      rfl

end Visits

section Invariant

variable {state : Variables} {visits : List (Visit steps)}

/-- What a recorded `text` leaves under `name` is there until a deciding step lays something over
it. -/
theorem value?_threaded_of_lastGenerated?
    (hexecuted : ∀ visit ∈ visits, ∃ state, visit.Executed delivery state) {text name : String}
    {value : Value} (htext : Event.lastGenerated? (visits.flatMap Visit.events) = some text)
    (hname : ∀ milliseconds, (recordText [] text milliseconds).value? name = some value) :
    (threaded state visits).value? name = (laidSince? visits name).or (some value) := by
  induction visits using List.reverseRecOn with
  | nil => cases htext
  | append_singleton visits visit ih =>
    obtain ⟨_, hvisit⟩ := hexecuted visit (List.mem_append_right _ (.head _))
    rw [lastGenerated?_flatMap_concat] at htext
    rw [threaded_concat, Visit.value?_update, laidSince?_concat]
    rcases hvisit.generated_or_laid with ⟨-, -, hgenerated, hwritten⟩ | ⟨-, hsilent, hwritten⟩
    · -- The text is the one of this visit, and nothing has been laid over it yet.
      rw [hgenerated, Option.some_or] at htext
      cases htext
      rw [hwritten name value hname, hgenerated]
      rfl
    · -- The text is an earlier one, and this visit is the last that lays something over it.
      rw [hsilent, Option.none_or] at htext
      rw [hwritten, hsilent, ih (fun v hv => hexecuted v (List.mem_append_left _ hv)) htext,
        Option.isNone_none, if_pos rfl, Option.or_assoc]

/-- The state threaded through visits tells of the `text` that was generated last. -/
theorem tells_threaded (hexecuted : ∀ visit ∈ visits, ∃ state, visit.Executed delivery state)
    {text : String} (htext : Event.lastGenerated? (visits.flatMap Visit.events) = some text) :
    Tells visits text (threaded state visits) := by
  refine ⟨?_, ?_, ?_⟩ <;>
  · refine value?_threaded_of_lastGenerated? hexecuted htext fun milliseconds => ?_
    simp [recordText, Fields.value?_put, Reserved.result, Reserved.lastText, Reserved.lastLength,
      Reserved.lastDuration]

end Invariant

namespace Journey

variable {limit remaining : Nat} {position : Workflow.Position steps} {state : Variables}
  {journey : Journey steps}

/-- The states of a journey tell of the text that was generated last. -/
theorem Walks.latest (h : Walks delivery limit remaining position state journey) :
    RunRecord.Latest journey.visits ⟨journey.signals, journey.state⟩ where
  generated visit hvisit := by
    obtain ⟨_, hexecuted⟩ := h.executed_of_mem visit hvisit
    rcases hexecuted.generated_or_laid with ⟨hkind, hresult, htext, -⟩ | ⟨hnot, hsilent, -⟩
    · rw [htext]
      exact iff_of_true rfl ⟨hkind, hresult⟩
    · rw [hsilent]
      exact iff_of_false Bool.false_ne_true hnot
  shown before name seen after text hevents htext := by
    obtain ⟨earlier, visit, later, hvisits, hkind, hname, rfl, rfl⟩ := h.shown hevents
    refine ⟨earlier, visit, later, hvisits, hkind, hname, rfl, ?_⟩
    refine tells_threaded (fun v hv => h.executed_of_mem v ?_) ?_
    · rw [hvisits, List.append_cons]
      exact List.mem_append_left _ hv
    · -- Neither the announcement nor the rest of the visit reports a text.
      have hsilent : Event.lastGenerated? visit.events = none := by
        rcases (h.executed_of_append hvisits).generated_or_laid with
          ⟨hprompt, -⟩ | ⟨-, hsilent, -⟩
        · cases hkind.symm.trans hprompt
        · exact hsilent
      rw [Event.lastGenerated?_append] at htext
      rw [lastGenerated?_flatMap_concat, hsilent]
      exact htext
  returned text htext := by
    obtain ⟨rest, hsplit, hsilent, -⟩ := journey.exists_rest
    rw [RunRecord.events, hsplit, Event.lastGenerated?_append,
      Event.lastGenerated?_eq_none.2 hsilent, Option.none_or] at htext
    show Tells journey.visits text journey.state
    rw [h.state_eq]
    exact tells_threaded h.executed_of_mem htext

end Journey

/-- Where a run does not start, nothing is generated and no state is shown. -/
theorem RunRecord.latest_unstarted (state : Variables) :
    RunRecord.Latest ([] : List (Visit steps)) (.unstarted state) where
  generated _ hvisit := absurd hvisit List.not_mem_nil
  shown before name seen after _ hevents := by
    have hmem : Event.stepAfter name (some seen) ∈ (RunRecord.unstarted state).events :=
      hevents ▸ List.mem_append_right _ (.head _)
    cases List.mem_singleton.1 hmem
  returned _ htext := by cases htext

/-- The states of every run tell of the text that was generated last. -/
theorem Workflow.run_latest (setting : Setting ω) (steps : Workflow) (state : Variables)
    (world : ω) :
    RunRecord.Latest (steps.visits setting state world) (steps.run setting state world).1 := by
  rcases steps.journey?_cases setting state world with
    ⟨-, hjourney⟩ | ⟨start, journey, -, hjourney, hwalks⟩
  · rw [visits, hjourney, run_eq_of_none setting state world hjourney]
    exact RunRecord.latest_unstarted state
  · rw [visits, hjourney, run_eq_of_some setting state world hjourney]
    exact hwalks.latest

/-- A generating step and its deciding step, both planned with the state of an earlier run. -/
def fedBack : Workflow :=
  let inputs : Variables := [(Reserved.result, .string "old"), (Reserved.lastLength, .int 3),
    (Reserved.lastText, .string "old")]
  [{ signpost "ask" .prompt none with inputs }, { signpost "ask" .after none with inputs }]

/-- In `fedBack` the deciding step hides the text that was generated behind that of the earlier
run. -/
theorem run_fedBack :
    Event.lastGenerated? (fedBack.run (simulated 8) [] ()).1.events = some "text" ∧
      Event.stepAfter "ask" (some (fedBack.run (simulated 8) [] ()).1.state) ∈
        (fedBack.run (simulated 8) [] ()).1.events ∧
      (fedBack.run (simulated 8) [] ()).1.state.value? Reserved.result = some (.string "old") ∧
      (fedBack.run (simulated 8) [] ()).1.state.value? Reserved.lastText = some (.string "old") ∧
      (fedBack.run (simulated 8) [] ()).1.state.value? Reserved.lastLength = some (.int 3) := by
  decide +kernel

end Promptbook
