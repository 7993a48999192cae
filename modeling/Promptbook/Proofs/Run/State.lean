import Promptbook.Proofs.Run.Walks

/-!
# The State of a Run

The state that a run returns is the state at its start with the updates of its visits made to it,
one after the other. An update lays the inputs of the step over the state, and behind that the text
that was generated, if one was. A step that fails makes no update.

## Main definitions

* `Visit.text`, `Visit.update`, `Visit.written`: the text that a visit has generated, what it makes
  of a state, and the fields that it writes.
* `Workflow.visits`: the visits of a run.
* `threaded`: a state after the updates of some visits.
* `RunRecord.Threads`: the state of a run is threaded through its visits.

## Main results

* `Visit.Executed.update_eq`: the update of a visit gives the state that its execution has given.
* `Journey.Walks.executed_of_append`: a visit is executed from the state threaded through those
  before. This is the invariant of a run.
* `Journey.Walks.shown`: the states that deciding steps show are those threaded up to them.
* `value?_threaded`: a field has the value that was written last.
* `Workflow.run_threads`: every run threads its state.
-/

namespace Promptbook

variable {ω : Type} {steps : Workflow} {delivery : Delivery}

/-- The text that has been generated when an event is reported. -/
def Event.generated? : Event → Option String
  | stepResultChunk _ response => some response.text
  | _ => none

namespace Visit

/-- The text that `visit` has generated. -/
def text (visit : Visit steps) : String :=
  (visit.events.findSome? Event.generated?).getD ""

/-- The update of `visit`: inputs are laid over `state` and a generated text is recorded, but only
if the step completes. -/
def update (visit : Visit steps) (state : Variables) : Variables :=
  match visit.result with
  | .error _ => state
  | .ok _ =>
    let combined := state.overlay (steps.step visit.step).inputs
    if (steps.step visit.step).isPrompt then
      recordText combined visit.text (Signal.total visit.signals)
    else combined

/-- The fields that `visit` writes. -/
def written (visit : Visit steps) : Variables :=
  visit.update []

end Visit

/-- The state that the updates of `visits` make of `state`. -/
def threaded (state : Variables) (visits : List (Visit steps)) : Variables :=
  visits.foldl (fun state visit => visit.update state) state

/-- The visits of a run; there are none if it does not start. -/
def Workflow.visits (setting : Setting ω) (steps : Workflow) (state : Variables) (world : ω) :
    List (Visit steps) :=
  ((steps.journey? setting state world).1.map Journey.visits).getD []

/-- The state of a run, `state` at first, is threaded through its `visits`. -/
structure RunRecord.Threads (state : Variables) (visits : List (Visit steps))
    (record : RunRecord) : Prop where
  /-- The events of the visits come first. -/
  reported : ∃ rest, record.events = visits.flatMap Visit.events ++ rest
  /-- The state that is returned is the one after all updates. -/
  returned : record.state = threaded state visits
  /-- The state behind a step that completes is the one after the updates up to it. -/
  reached : ∀ earlier visit later result, visits = earlier ++ visit :: later →
    visit.result = .ok result → result = threaded state (earlier ++ [visit])
  /-- A step that generates a text and completes has reported the text that is recorded. -/
  generated : ∀ visit ∈ visits, ∀ result, visit.result = .ok result →
    (steps.step visit.step).isPrompt = true →
      ∃ response, Event.ofResponse response ∈ visit.events ∧ response.text = visit.text
  /-- A step that fails writes nothing. -/
  failed : ∀ visit ∈ visits, ∀ e, visit.result = .error e → visit.written = []
  /-- The state `seen` that a deciding step shows is the one after the updates up to the visit that
  shows it: the visit whose events follow those of the visits `earlier`. -/
  shown : ∀ before name seen after,
    record.events = before ++ .stepAfter name (some seen) :: after →
      ∃ earlier visit later, visits = earlier ++ visit :: later ∧
        (steps.step visit.step).isPrompt = false ∧ (steps.step visit.step).name = name ∧
        before = earlier.flatMap Visit.events ++ [.stepAfter name none] ∧
        seen = threaded state (earlier ++ [visit])
  /-- A field has the value that was written last. -/
  lastWriter : ∀ name, record.state.value? name =
    (visits.reverse.findSome? fun visit => visit.written.value? name).or (state.value? name)
  /-- No field is removed on the way. -/
  kept : ∀ earlier later, visits = earlier ++ later →
    ∀ name, (threaded state earlier).has name = true → record.state.has name = true
  /-- A value comes from the start, from the inputs of a step or from a text, both of a step that
  completes. -/
  origin : ∀ name value, record.state.value? name = some value →
    state.value? name = some value ∨
      ∃ visit ∈ visits, (∃ result, visit.result = .ok result) ∧
        ((name, value) ∈ (steps.step visit.step).inputs ∨ (steps.step visit.step).isPrompt = true ∧
          (recordText [] visit.text (Signal.total visit.signals)).value? name = some value)

namespace Workflow

/-- The visits of a run that starts at the step `start` are those of its journey. -/
theorem visits_of_some (setting : Setting ω) {start : Fin steps.length} (state : Variables)
    (world : ω) (hstart : steps.firstPrompt? = some start) :
    steps.visits setting state world =
      (Journey.walk setting setting.configuration.run.maxSteps ⟨start, none⟩ state
        world).1.visits := by
  rw [visits, journey?_of_some setting state world hstart]
  rfl

/-- If no step generates text there are no visits. -/
theorem visits_of_none (setting : Setting ω) (state : Variables) (world : ω)
    (hnone : steps.firstPrompt? = none) : steps.visits setting state world = [] := by
  rw [visits, journey?_of_none setting state world hnone]
  rfl

end Workflow

/-- Where `all` elements list events one after the other, an `event` before the `rest` is listed by
one of the elements `a`, behind the events of the elements before it. -/
theorem exists_of_flatMap_append {α β : Type} {f : α → List β} {all : List α}
    {rest before after : List β} {event : β}
    (h : all.flatMap f ++ rest = before ++ event :: after) (hrest : event ∉ rest) :
    ∃ earlier a later first last, all = earlier ++ a :: later ∧ f a = first ++ event :: last ∧
      before = earlier.flatMap f ++ first := by
  induction all generalizing before with
  | nil =>
    refine absurd ?_ hrest
    rw [List.flatMap_nil, List.nil_append] at h
    exact h ▸ List.mem_append_right _ (.head _)
  | cons a all ih =>
    -- If the event is not among those of `a`, it is found behind them.
    have hlater : ∀ behind, before = f a ++ behind →
        all.flatMap f ++ rest = behind ++ event :: after →
        ∃ earlier b later first last, a :: all = earlier ++ b :: later ∧
          f b = first ++ event :: last ∧ before = earlier.flatMap f ++ first := by
      rintro behind rfl hbehind
      obtain ⟨earlier, b, later, first, last, rfl, hb, rfl⟩ := ih hbehind
      refine ⟨a :: earlier, b, later, first, last, rfl, hb, ?_⟩
      rw [List.flatMap_cons, List.append_assoc]
    rw [List.flatMap_cons, List.append_assoc, List.append_eq_append_iff] at h
    -- The events of `a` end before those of `before` do, or they reach beyond.
    rcases h with ⟨behind, hbefore, hbehind⟩ | ⟨behind, hfirst, hbehind⟩
    · exact hlater behind hbefore hbehind
    · cases behind with
      | nil =>
        rw [List.append_nil] at hfirst
        exact hlater [] (by rw [hfirst, List.append_nil]) hbehind.symm
      | cons _ behind =>
        obtain ⟨rfl, -⟩ := List.cons.inj hbehind
        exact ⟨[], a, all, before, behind, rfl, hfirst, rfl⟩

section Update

/-- The events `first` and `last` at both ends of `signals` take no time. -/
theorem Signal.total_event_concat_event (first last : Event) (signals : List Signal) :
    Signal.total (.event first :: (signals ++ [.event last])) = Signal.total signals := by
  unfold total
  rw [List.foldl_cons, List.foldl_append]
  rfl

/-- Pieces of text are not the text that has been generated. -/
theorem OnlyTokens.findSome?_generated? {signals : List Signal} (h : OnlyTokens delivery signals) :
    (signals.filterMap Signal.event?).findSome? Event.generated? = none := by
  obtain ⟨tokens, hsignals, -⟩ := h
  rw [hsignals, List.findSome?_eq_none_iff, List.forall_mem_map]
  exact fun _ _ => rfl

/-- The announcement of `step` reports no generated text. -/
theorem Step.generated?_announcement (step : Step) : step.announcement.generated? = none := by
  unfold announcement
  split <;> rfl

/-- The text of `visit` is that of the `response` with which it ends. -/
theorem Visit.text_eq {visit : Visit steps} {signals : List Signal} {response : Response}
    (hsignals : visit.signals = .event (steps.step visit.step).announcement ::
      (signals ++ [.event (.ofResponse response)]))
    (htokens : OnlyTokens delivery signals) : visit.text = response.text := by
  have hevents : visit.events = (steps.step visit.step).announcement ::
      (signals.filterMap Signal.event? ++ [.ofResponse response]) := by
    rw [events, hsignals]
    exact congrArg (_ :: ·) List.filterMap_append
  rw [text, hevents, List.findSome?_cons, Step.generated?_announcement, List.findSome?_append,
    htokens.findSome?_generated?]
  rfl

/-- The update of `visit` gives the state that its execution has given. -/
theorem Visit.Executed.update_eq {state state' : Variables} {visit : Visit steps}
    (h : visit.Executed delivery state) (hresult : visit.result = .ok state') :
    visit.update state = state' := by
  obtain ⟨signals, hsignals, hexecutes⟩ := h
  rw [hresult] at hexecutes
  simp only [update, hresult]
  cases hexecutes with
  | decision hkind => rw [if_neg (by rw [hkind]; decide)]
  | generation hkind htokens response =>
    rename_i signals
    rw [if_pos hkind]
    -- Neither the announcement nor the report of the text takes time.
    have htotal : Signal.total visit.signals = Signal.total signals := by
      rw [hsignals, Signal.total_event_concat_event]
    rw [htotal, text_eq hsignals htokens]

/-- A step that shows the state `seen` decides, and `seen` is the state that it completes with. -/
theorem Visit.Executed.result_of_shown {state seen : Variables} {name : String}
    {visit : Visit steps} (h : visit.Executed delivery state)
    (hshown : Event.stepAfter name (some seen) ∈ visit.events) :
    (steps.step visit.step).isPrompt = false ∧ (steps.step visit.step).name = name ∧
      visit.result = .ok seen := by
  obtain ⟨signals, hsignals, hexecutes⟩ := h
  -- What is announced comes without a state.
  have hannounced : Event.stepAfter name (some seen) ≠ (steps.step visit.step).announcement := by
    unfold Step.announcement
    split <;> nofun
  have htokens : ∀ {signals : List Signal}, OnlyTokens delivery signals →
      Event.stepAfter name (some seen) ∉ signals.filterMap Signal.event? := by
    rintro signals ⟨tokens, hsignals, -⟩ hmem
    rw [hsignals] at hmem
    obtain ⟨_, -, heq⟩ := List.mem_map.1 hmem
    cases heq
  have hmem : Event.stepAfter name (some seen) ∈ signals.filterMap Signal.event? := by
    rw [events, hsignals] at hshown
    exact (List.mem_cons.1 hshown).resolve_left hannounced
  generalize visit.result = result at hexecutes
  cases hexecutes with
  | decision hkind =>
    cases List.mem_singleton.1 hmem
    exact ⟨hkind, rfl, rfl⟩
  | generation _ hsilent response =>
    rw [List.filterMap_append, List.mem_append] at hmem
    rcases hmem with hmem | hmem
    · exact absurd hmem (htokens hsilent)
    · cases List.mem_singleton.1 hmem
  | failure _ hsilent => exact absurd hmem (htokens hsilent)

/-- Before a deciding step shows the state `seen`, it has only been announced. -/
theorem Visit.Executed.eq_announcement {state seen : Variables} {name : String}
    {visit : Visit steps} {first last : List Event} (h : visit.Executed delivery state)
    (hevents : visit.events = first ++ .stepAfter name (some seen) :: last) :
    first = [.stepAfter name none] := by
  have hshown : Event.stepAfter name (some seen) ∈ visit.events :=
    hevents ▸ List.mem_append_right _ (.head _)
  obtain ⟨hkind, hname, hresult⟩ := h.result_of_shown hshown
  obtain ⟨signals, hsignals, hexecutes⟩ := h
  rw [hresult] at hexecutes
  cases hexecutes with
  | generation hprompt => cases hkind.symm.trans hprompt
  | decision =>
    -- A deciding step reports two events, and only the second one shows a state.
    have hboth : visit.events = [.stepAfter name none,
        .stepAfter name (some (state.overlay (steps.step visit.step).inputs))] := by
      rw [events, hsignals, Step.announcement, hkind, hname]
      rfl
    rw [hboth] at hevents
    cases first with
    | nil => cases hevents
    | cons announced first =>
      obtain ⟨rfl, hrest⟩ := List.cons.inj hevents
      obtain ⟨rfl, -⟩ | ⟨-, hnil⟩ := List.singleton_eq_append_iff.1 hrest
      · rfl
      · cases hnil

/-- A step that generates a text and completes has reported the text. -/
theorem Visit.Executed.exists_response {state state' : Variables} {visit : Visit steps}
    (h : visit.Executed delivery state) (hresult : visit.result = .ok state')
    (hkind : (steps.step visit.step).isPrompt = true) :
    ∃ response, Event.ofResponse response ∈ visit.events ∧ response.text = visit.text := by
  obtain ⟨signals, hsignals, hexecutes⟩ := h
  rw [hresult] at hexecutes
  cases hexecutes with
  | decision hdecides => cases hkind.symm.trans hdecides
  | generation _ htokens response =>
    refine ⟨response, ?_, (text_eq hsignals htokens).symm⟩
    rw [events, hsignals]
    exact List.mem_cons_of_mem _ (List.mem_filterMap.2
      ⟨_, List.mem_append_right _ (List.mem_singleton.2 rfl), rfl⟩)

end Update

section Threaded

variable {state : Variables}

/-- The first `visit` makes its update first. -/
@[simp] theorem threaded_cons (state : Variables) (visit : Visit steps)
    (visits : List (Visit steps)) :
    threaded state (visit :: visits) = threaded (visit.update state) visits := rfl

/-- The last `visit` makes its update last. -/
@[simp] theorem threaded_concat (state : Variables) (visits : List (Visit steps))
    (visit : Visit steps) :
    threaded state (visits ++ [visit]) = visit.update (threaded state visits) :=
  List.foldl_append

/-- A recorded `text` writes the same fields over any state. -/
theorem value?_recordText (state : Variables) (text : String) (milliseconds : Nat)
    (name : String) :
    (recordText state text milliseconds).value? name =
      ((recordText [] text milliseconds).value? name).or (state.value? name) := by
  unfold recordText
  -- Four fields are put, one after the other; any other name is looked up in the state.
  simp only [Fields.value?_put, Fields.value?_nil]
  repeat' split
  all_goals rfl

/-- After the update of `visit`, a field has the value that the visit has written, if it has written
one, and otherwise the one before. -/
theorem Visit.value?_update (visit : Visit steps) (state : Variables) (name : String) :
    (visit.update state).value? name = (visit.written.value? name).or (state.value? name) := by
  unfold written update
  cases visit.result with
  | error e => rfl
  | ok _ =>
    have hinputs := Fields.value?_overlay state (steps.step visit.step).inputs name
    cases hkind : (steps.step visit.step).isPrompt with
    | false => exact hinputs
    | true =>
      simp only [if_true]
      -- The text comes before the inputs, and these before the state.
      rw [value?_recordText, value?_recordText (Fields.overlay [] _), hinputs, Option.or_assoc]
      rfl

/-- After `visits`, a field has the value that the last visit to write it has written. -/
theorem value?_threaded (state : Variables) (visits : List (Visit steps)) (name : String) :
    (threaded state visits).value? name =
      (visits.reverse.findSome? fun visit => visit.written.value? name).or
        (state.value? name) := by
  induction h : visits.reverse generalizing visits with
  | nil =>
    rw [List.reverse_eq_nil_iff.1 h]
    rfl
  | cons visit earlier ih =>
    -- The last visit is the first one in reverse.
    have hvisits : visits = earlier.reverse ++ [visit] := by
      rw [← List.reverse_reverse visits, h, List.reverse_cons]
    rw [hvisits, threaded_concat, Visit.value?_update, ih earlier.reverse (List.reverse_reverse _),
      List.findSome?_cons]
    cases visit.written.value? name <;> rfl

/-- Updates remove no field. -/
theorem has_threaded {visits : List (Visit steps)} {name : String}
    (h : state.has name = true) : (threaded state visits).has name = true := by
  rw [Fields.has, value?_threaded, Option.isSome_or, Bool.or_eq_true]
  exact .inr h

/-- What `visit` writes under `name` is an input or tells of the text, and the step has
completed. -/
theorem Visit.origin_of_written {visit : Visit steps} {name : String} {value : Value}
    (h : visit.written.value? name = some value) :
    (∃ result, visit.result = .ok result) ∧
      ((name, value) ∈ (steps.step visit.step).inputs ∨ (steps.step visit.step).isPrompt = true ∧
        (recordText [] visit.text (Signal.total visit.signals)).value? name = some value) := by
  unfold written update at h
  cases hresult : visit.result with
  | error e =>
    rw [hresult] at h
    cases h
  | ok result =>
    refine ⟨⟨result, rfl⟩, ?_⟩
    cases hkind : (steps.step visit.step).isPrompt with
    | false =>
      simp only [hresult, hkind, Bool.false_eq_true, if_false] at h
      exact .inl (Fields.mem_of_value?_collect h)
    | true =>
      simp only [hresult, hkind, if_true] at h
      -- What tells of the text is laid over the inputs.
      rw [value?_recordText, Option.or_eq_some_iff] at h
      rcases h with htext | ⟨-, hinput⟩
      · exact .inr ⟨rfl, htext⟩
      · exact .inl (Fields.mem_of_value?_collect hinput)

end Threaded

namespace Journey

variable {limit remaining : Nat} {position : Workflow.Position steps} {state : Variables}
  {journey : Journey steps}

/-- A journey ends with `state` threaded through its visits. -/
theorem Walks.state_eq (h : Walks delivery limit remaining position state journey) :
    journey.state = threaded state journey.visits := by
  induction h with
  | limit | failed => rfl
  | finished hexecutes | lost hexecutes =>
    exact ((Visit.executed_at hexecutes).update_eq rfl).symm
  | @goesOn _ position _ state state' signals journey hexecutes _ _ ih =>
    show journey.state = threaded state (.at position signals (.ok state') :: journey.visits)
    rw [threaded_cons, (Visit.executed_at hexecutes).update_eq rfl]
    exact ih

/-- A `visit` of a journey is executed from `state` threaded through the visits before it. -/
theorem Walks.executed_of_append (h : Walks delivery limit remaining position state journey)
    {earlier : List (Visit steps)} {visit : Visit steps} {later : List (Visit steps)}
    (hvisits : journey.visits = earlier ++ visit :: later) :
    visit.Executed delivery (threaded state earlier) := by
  induction h generalizing earlier with
  | limit => exact absurd hvisits.symm (by simp [ended])
  | failed hexecutes | finished hexecutes | lost hexecutes =>
    -- There is one visit only, so none is before it.
    obtain ⟨rfl, rfl, rfl⟩ : earlier = [] ∧ visit = _ ∧ later = [] := by
      simpa [after, ended, List.append_eq_singleton_iff, List.singleton_eq_append_iff] using hvisits
    exact Visit.executed_at hexecutes
  | goesOn hexecutes _ _ ih =>
    cases earlier with
    | nil =>
      obtain ⟨rfl, -⟩ := List.cons.inj hvisits
      exact Visit.executed_at hexecutes
    | cons first earlier =>
      obtain ⟨rfl, hrest⟩ := List.cons.inj hvisits
      rw [threaded_cons, (Visit.executed_at hexecutes).update_eq rfl]
      exact ih hrest

/-- The state that a `visit` of a journey reaches is the one after the updates up to it. -/
theorem Walks.result_of_append (h : Walks delivery limit remaining position state journey)
    {earlier : List (Visit steps)} {visit : Visit steps} {later : List (Visit steps)}
    (hvisits : journey.visits = earlier ++ visit :: later) {result : Variables}
    (hresult : visit.result = .ok result) : result = threaded state (earlier ++ [visit]) := by
  rw [threaded_concat]
  exact ((h.executed_of_append hvisits).update_eq hresult).symm

/-- What a `journey` reports behind its visits is neither a text nor a state that a deciding step
shows. -/
theorem exists_rest (journey : Journey steps) : ∃ rest,
    journey.signals.filterMap Signal.event? = journey.visits.flatMap Visit.events ++ rest ∧
      (∀ event ∈ rest, event.generated? = none) ∧
      ∀ name seen, Event.stepAfter name (some seen) ∉ rest := by
  refine ⟨_, journey.filterMap_event?_signals.trans (List.append_assoc _ _ _), ?_, ?_⟩
  · simp only [List.forall_mem_append, List.forall_mem_map, List.forall_mem_singleton]
    exact ⟨fun _ _ => rfl, rfl⟩
  · intro name seen hmem
    rcases List.mem_append.1 hmem with hmem | hmem
    · obtain ⟨_, -, heq⟩ := List.mem_map.1 hmem
      cases heq
    · cases List.mem_singleton.1 hmem

/-- The state `seen` that is shown during a journey is the one after the updates up to the step that
shows it. Before it, the events of the visits before have been reported, and the step has been
announced. -/
theorem Walks.shown (h : Walks delivery limit remaining position state journey) {name : String}
    {seen : Variables} {before after : List Event}
    (hevents : journey.signals.filterMap Signal.event? =
      before ++ .stepAfter name (some seen) :: after) :
    ∃ earlier visit later, journey.visits = earlier ++ visit :: later ∧
      (steps.step visit.step).isPrompt = false ∧ (steps.step visit.step).name = name ∧
      before = earlier.flatMap Visit.events ++ [.stepAfter name none] ∧
      seen = threaded state (earlier ++ [visit]) := by
  obtain ⟨rest, hsplit, -, hrest⟩ := journey.exists_rest
  rw [hsplit] at hevents
  obtain ⟨earlier, visit, later, first, last, hvisits, hvisit, rfl⟩ :=
    exists_of_flatMap_append hevents (hrest name seen)
  have hexecuted := h.executed_of_append hvisits
  obtain ⟨hkind, hname, hresult⟩ := hexecuted.result_of_shown
    (hvisit ▸ List.mem_append_right _ (.head _))
  obtain rfl := hexecuted.eq_announcement hvisit
  exact ⟨earlier, visit, later, hvisits, hkind, hname, rfl, h.result_of_append hvisits hresult⟩

/-- A journey threads its state through its visits. -/
theorem Walks.threads (h : Walks delivery limit remaining position state journey) :
    RunRecord.Threads state journey.visits ⟨journey.signals, journey.state⟩ where
  reported := ⟨_, journey.filterMap_event?_signals.trans (List.append_assoc _ _ _)⟩
  returned := h.state_eq
  reached _ _ _ _ hvisits hresult := h.result_of_append hvisits hresult
  generated visit hvisit result hresult hkind := by
    obtain ⟨_, hexecuted⟩ := h.executed_of_mem visit hvisit
    exact hexecuted.exists_response hresult hkind
  failed visit _ e hresult := by
    rw [Visit.written, Visit.update, hresult]
  shown _ _ _ _ hevents := h.shown hevents
  lastWriter name := by
    show journey.state.value? name = _
    rw [h.state_eq]
    exact value?_threaded state journey.visits name
  kept earlier later hvisits name hhas := by
    show journey.state.has name = true
    rw [h.state_eq, hvisits, threaded, List.foldl_append]
    exact has_threaded hhas
  origin name value hvalue := by
    -- A value of the last state is what the last writer wrote, or else it was there at the start.
    rw [h.state_eq, value?_threaded, Option.or_eq_some_iff] at hvalue
    rcases hvalue with hwritten | ⟨-, hstart⟩
    · obtain ⟨visit, hvisit, hwritten⟩ := List.exists_of_findSome?_eq_some hwritten
      exact .inr ⟨visit, List.mem_reverse.1 hvisit, Visit.origin_of_written hwritten⟩
    · exact .inl hstart

end Journey

end Promptbook
