import Promptbook.Proofs.Run.Limit
import Mathlib.Data.List.Forall2

/-!
# The Two Ways of Reporting Text

A run that reports text in pieces and a run that reports it as a whole come to the same, unless a
provider has a way of its own to answer in pieces. The pieces that are reported for a step make up
its text.

## Main definitions

* `Replays`: behind the announcement of a step, the pieces of text make up what is generated.
* `Variables.Alike`: states that are the same, apart from the time that a generation took.
* `Event.Agrees`: events that report the same, apart from such times and from what responses of
  providers tell beside their text.
* `RunRecord.Agrees`: two runs execute the same steps, report the same beside pieces of text and
  return the same state.

## Main results

* `Step.replays_execute`: an execution that reports text in pieces replays it.
* `Step.agrees_execute`: from states that are alike, both ways of reporting come to states that are
  alike. This is the step of the invariant that two runs keep.
* `Workflow.run_delivery`: a run replays its texts, and runs with both ways of reporting agree.
-/

namespace Promptbook

variable {ω : Type} {steps : Workflow}

/-- The same `setting` with `delivery` as its way of reporting text. -/
def Setting.delivering (setting : Setting ω) (delivery : Delivery) : Setting ω :=
  { setting with delivery := delivery }

/-- If providers are called in `setting`, they answer in pieces by giving their whole answer as the
only one. -/
def Setting.AnswersWhole (setting : Setting ω) : Prop :=
  setting.mode = .execution → ∀ (name : String) (provider : Provider ω),
    Fields.value? setting.providers name = some provider → provider.pieces = none

/-- In `events`, the pieces of text that are reported behind the announcement of a step make up the
text that is generated. -/
def Replays (events : List Event) : Prop :=
  ∀ before result response after,
    events = before ++ .stepResultChunk result response :: after →
      result = .ofResponse response ∧ ∃ earlier name tokens,
        before = earlier ++ .stepBefore name :: tokens.map Event.stepResultStream ∧
          String.join tokens = response.text

/-- The states `a` and `b` have the same fields, and the same values of them unless the value is the
time that a generation took. -/
def Variables.Alike (a b : Variables) : Prop :=
  List.Forall₂ (fun x y => x.1 = y.1 ∧ (x.1 ≠ Reserved.lastDuration → x.2 = y.2)) a b

/-- The responses `r` and `r'` have the same text. If they are made up, they are the same. -/
def Response.Agrees (mode : RunMode) (r r' : Response) : Prop :=
  r.text = r'.text ∧ (mode = .simulation → r = r')

/-- Two events report the same. None of them reports a piece of text. -/
inductive Event.Agrees (mode : RunMode) : Event → Event → Prop where
  /-- The step `name` begins in both. -/
  | stepBefore (name : String) : Agrees mode (.stepBefore name) (.stepBefore name)
  /-- The deciding step `name` begins in both. -/
  | stepAfter (name : String) : Agrees mode (.stepAfter name none) (.stepAfter name none)
  /-- The deciding step `name` has seen states that are alike. -/
  | shown (name : String) {a b : Variables} (h : a.Alike b) :
    Agrees mode (.stepAfter name (some a)) (.stepAfter name (some b))
  /-- The same text has been generated. -/
  | generated {r r' : Response} (h : r.Agrees mode r') :
    Agrees mode (.ofResponse r) (.ofResponse r')
  /-- The step `name` has failed for the same reason. -/
  | stepError (error name : String) : Agrees mode (.stepError error name) (.stepError error name)
  /-- The runs end with states that are alike and with the same `error`. -/
  | workflowDone {a b : Variables} (h : a.Alike b) (error : Option String) :
    Agrees mode (.workflowDone a error) (.workflowDone b error)

/-- Those of `events` that do not report pieces of text. -/
def Event.lasting (events : List Event) : List Event :=
  events.filter fun event => event.kind ≠ .stepResultStream

/-- A run that reports text in pieces and one that reports it as a whole, with the visits `visits`
and `visits'`, come to the same. -/
structure RunRecord.Agrees (mode : RunMode) (visits visits' : List (Visit steps))
    (streamed blocked : RunRecord) : Prop where
  /-- The same steps are executed. -/
  steps : visits.map Visit.step = visits'.map Visit.step
  /-- The states at the end are alike. -/
  state : Variables.Alike streamed.state blocked.state
  /-- Without the pieces of text, the events agree one by one. -/
  events : List.Forall₂ (Event.Agrees mode) (Event.lasting streamed.events) blocked.events

section Replays

/-- Where no text is generated, none has to be replayed. -/
theorem replays_of_silent {events : List Event}
    (h : ∀ event ∈ events, event.generated? = none) : Replays events := by
  rintro before result response after rfl
  cases h _ (List.mem_append_right _ List.mem_cons_self)

/-- An announcement, `tokens` that make up the text of `response`, and the report of the text replay
it. -/
theorem replays_generation (name : String) {tokens : List String} {response : Response}
    (hjoin : String.join tokens = response.text) :
    Replays (.stepBefore name :: tokens.map .stepResultStream ++ [.ofResponse response]) := by
  intro before result other after hsplit
  rcases List.eq_nil_or_concat after with rfl | ⟨_, last, rfl⟩
  · -- The report of the text is the last event.
    obtain ⟨rfl, hlast⟩ := List.append_inj' hsplit rfl
    cases hlast
    exact ⟨rfl, [], name, tokens, rfl, hjoin⟩
  · -- No report of a text stands before it.
    rw [List.concat_eq_append, ← List.cons_append, ← List.append_assoc] at hsplit
    have hearlier := (List.append_inj' hsplit rfl).1
    have hmem : Event.stepResultChunk result other ∈
        Event.stepBefore name :: tokens.map .stepResultStream := by
      rw [hearlier]
      exact List.mem_append_right _ List.mem_cons_self
    simp at hmem

/-- Events that replay every text may follow each other. -/
theorem Replays.append {events events' : List Event} (h : Replays events) (h' : Replays events') :
    Replays (events ++ events') := by
  intro before result response after hsplit
  rcases List.append_eq_append_iff.1 hsplit with ⟨between, rfl, hlater⟩ | ⟨between, hfirst, hlater⟩
  · obtain ⟨hresult, earlier, name, tokens, rfl, hjoin⟩ := h' between result response after hlater
    exact ⟨hresult, events ++ earlier, name, tokens, (List.append_assoc _ _ _).symm, hjoin⟩
  · cases between with
    | nil =>
      -- The second events cannot begin with the report of a text.
      obtain ⟨-, earlier, name, tokens, hnil, -⟩ := h' [] result response after hlater.symm
      simp at hnil
    | cons event between =>
      obtain ⟨rfl, rfl⟩ := List.cons.inj hlater
      exact h before result response between hfirst

/-- A sequence of `blocks` replays every text if each of the blocks does. -/
theorem replays_flatMap {α : Type} {blocks : List α} {eventsOf : α → List Event}
    (h : ∀ block ∈ blocks, Replays (eventsOf block)) : Replays (blocks.flatMap eventsOf) := by
  induction blocks with
  | nil => exact replays_of_silent nofun
  | cons block blocks ih =>
    rw [List.flatMap_cons]
    exact (h _ List.mem_cons_self).append
      (ih fun block hmem => h block (List.mem_cons_of_mem _ hmem))

/-- The pieces of a made-up text make up the text. -/
theorem Simulation.join_tokens (settings : SimulationSettings) (step : Step) :
    String.join (tokens settings step) = text settings step := by
  unfold tokens text
  rw [← String.toList_inj, String.toList_join]
  cases statedText? step with
  | none => exact List.append_nil _
  | some text =>
    have hflatten := Text.flatten_runs text.toList
    simpa [List.flatMap_map, List.flatMap_id'] using hflatten

/-- An empty piece is not reported, and nothing is missing without it. -/
theorem Generation.join_token (content : String) (tokens : List String) :
    String.join ((if content = "" then [] else [content]) ++ tokens) =
      content ++ String.join tokens := by
  split
  · rename_i hempty
    rw [hempty, List.nil_append, String.empty_append]
  · exact String.join_cons

/-- The pieces that are taken from an answer make up the `text` that it gives. -/
theorem Generation.join_consume (pieces : List (Except Error Chunk)) {text : String}
    (h : (consume pieces).2 = .ok text) : String.join (consume pieces).1 = text := by
  induction pieces generalizing text with
  | nil =>
    cases h
    rfl
  | cons piece pieces ih =>
    cases piece with
    | error e => cases h
    | ok chunk =>
      simp only [consume] at h ⊢
      split at h
      · -- The last piece is taken alone.
        rename_i hlast
        cases h
        have hsingle := join_token chunk.content []
        rw [List.append_nil, show String.join [] = "" from rfl, String.append_empty] at hsingle
        rw [if_pos hlast]
        exact hsingle
      · rename_i hlast
        rw [if_neg hlast]
        cases hrest : (consume pieces).2 with
        | error e =>
          simp only [hrest] at h
          cases h
        | ok rest =>
          simp only [hrest] at h
          cases h
          rw [join_token, ih hrest]

/-- The pieces of text that a generation reports make up the text of its response, unless it
fails. -/
def Assembles (outcome : List Signal × Except Error Response) : Prop :=
  ∀ response, outcome.2 = .ok response → ∃ tokens : List String,
    outcome.1.filterMap Signal.event? = tokens.map Event.stepResultStream ∧
      String.join tokens = response.text

/-- A `provider` that is asked for a text in pieces answers with what they make up. -/
theorem assembles_ask (provider : Provider ω) (request : Request) (world : ω) :
    Assembles (Generation.ask provider request .stream world).1 := by
  obtain ⟨⟨result, after⟩, hresult⟩ : ∃ r, provider.stream request world = r := ⟨_, rfl⟩
  simp only [Generation.ask, bind, StateT.bind, hresult]
  intro response hresponse
  cases result with
  | error e => cases hresponse
  | ok pieces =>
    have hjoin := @Generation.join_consume pieces
    obtain ⟨⟨tokens, text⟩, hconsume⟩ : ∃ r, Generation.consume pieces = r := ⟨_, rfl⟩
    simp only [hconsume] at hjoin hresponse ⊢
    cases text with
    | error e => cases hresponse
    | ok text =>
      cases hresponse
      exact ⟨tokens, filterMap_event?_tokenSignals tokens, hjoin rfl⟩

/-- When text is reported in pieces, those of `step` make up the text of its response. -/
theorem assembles_respond {setting : Setting ω} (hstream : setting.delivery = .stream)
    (step : Step) (world : ω) : Assembles (step.respond setting world).1 := by
  unfold Step.respond
  rw [hstream]
  cases setting.mode with
  | simulation =>
    rintro _ ⟨⟩
    exact ⟨_, Simulation.filterMap_event?_respond setting.configuration.simulation step,
      Simulation.join_tokens setting.configuration.simulation step⟩
  | execution =>
    simp only [Generation.respond]
    cases setting.providers.resolve (Generation.modelOf setting.configuration.run step) with
    | error e =>
      intro _ hresponse
      cases hresponse
    | ok found => exact assembles_ask found.1 _ world

/-- When text is reported in pieces, an execution of `step` replays it. -/
theorem Step.replays_execute {setting : Setting ω} (hstream : setting.delivery = .stream)
    (step : Step) (state : Variables) (world : ω) :
    Replays (step.announcement ::
      (step.execute setting state world).1.1.filterMap Signal.event?) := by
  cases hkind : step.isPrompt with
  | false =>
    simp only [execute, announcement, hkind]
    exact replays_of_silent (List.forall_mem_cons.2 ⟨rfl, List.forall_mem_singleton.2 rfl⟩)
  | true =>
    have htokens := onlyTokens_respond setting step world
    have hassembles := assembles_respond hstream step world
    obtain ⟨⟨⟨signals, result⟩, after⟩, hrespond⟩ : ∃ r, step.respond setting world = r := ⟨_, rfl⟩
    rw [hrespond] at htokens hassembles
    simp only [execute, announcement, hkind, if_true, bind, StateT.bind, hrespond]
    -- A failed response leaves pieces without a whole text, and there is nothing to replay.
    cases result with
    | error e =>
      obtain ⟨tokens, hsignals, -⟩ := htokens
      show Replays (_ :: signals.filterMap Signal.event?)
      rw [hsignals]
      exact replays_of_silent
        (List.forall_mem_cons.2 ⟨rfl, List.forall_mem_map.2 fun _ _ => rfl⟩)
    | ok response =>
      obtain ⟨tokens, hsignals, hjoin⟩ := hassembles response rfl
      show Replays
        (_ :: (signals ++ [Signal.event (.ofResponse response)]).filterMap Signal.event?)
      rw [List.filterMap_append, show signals.filterMap Signal.event? = _ from hsignals]
      exact replays_generation step.name hjoin

/-- When text is reported in pieces, a journey replays it. -/
theorem Journey.replays_walk {setting : Setting ω} (hstream : setting.delivery = .stream)
    (remaining : Nat) (position : Workflow.Position steps) (state : Variables) (world : ω) :
    Replays ((walk setting remaining position state world).1.signals.filterMap Signal.event?) := by
  rw [filterMap_event?_signals, reports]
  refine (Replays.append (replays_flatMap ?_) (replays_of_silent ?_)).append
    (replays_of_silent (List.forall_mem_singleton.2 rfl))
  · intro visit hvisit
    obtain ⟨state, world, hsignals, -⟩ := exists_execute_of_mem setting _ _ _ _ visit hvisit
    rw [Visit.events, hsignals]
    exact Step.replays_execute hstream _ state world
  · exact List.forall_mem_map.2 fun _ _ => rfl

end Replays

section Agreement

/-- Two computations come to values that `R` relates, or fail for the same reason. -/
inductive SameOutcome {α : Type} (R : α → α → Prop) : Except Error α → Except Error α → Prop where
  /-- Both give a value. -/
  | ok {a b : α} (h : R a b) : SameOutcome R (.ok a) (.ok b)
  /-- Both fail with `e`. -/
  | error (e : Error) : SameOutcome R (.error e) (.error e)

namespace Variables.Alike

variable {a b : Variables}

/-- Every state `a` is like itself. -/
theorem refl (a : Variables) : a.Alike a :=
  List.forall₂_same.2 fun _ _ => ⟨rfl, fun _ => rfl⟩

/-- Writing the same value, or a time, leaves states alike. -/
theorem put (h : a.Alike b) {name : String} {value value' : Value}
    (hvalue : name ≠ Reserved.lastDuration → value = value') :
    Variables.Alike (Fields.put a name value) (Fields.put b name value') := by
  induction h with
  | nil => exact .cons ⟨rfl, hvalue⟩ .nil
  | @cons x y a b hentry hrest ih =>
    -- The names are the same, so the value goes to the same place.
    simp only [Fields.put, ← hentry.1]
    split
    · exact .cons ⟨rfl, hvalue⟩ (.cons hentry hrest)
    · split
      · exact .cons ⟨rfl, hvalue⟩ hrest
      · exact .cons hentry ih

/-- States stay alike when the same fields `upper` are laid over them. -/
theorem overlay (h : a.Alike b) (upper : Variables) :
    Variables.Alike (Fields.overlay a upper) (Fields.overlay b upper) := by
  induction upper generalizing a b with
  | nil => exact h
  | cons entry upper ih => exact ih (h.put fun _ => rfl)

/-- States stay alike when the same `text` is recorded, whatever time it took. -/
theorem recordText (h : a.Alike b) (text : String) (time time' : Nat) :
    Variables.Alike (recordText a text time) (recordText b text time') :=
  (((h.put fun _ => rfl).put fun hname => absurd rfl hname).put fun _ => rfl).put fun _ => rfl

end Variables.Alike

variable {setting : Setting ω}

/-- If a `provider` gives its whole answer in one piece, both ways of asking it come to the same
text. -/
theorem sameOutcome_ask {provider : Provider ω} (hfunctional : provider.Functional)
    (hwhole : provider.pieces = none) (request : Request) (world world' : ω) :
    SameOutcome (Response.Agrees .execution)
      (Generation.ask provider request .stream world).1.2
      (Generation.ask provider request .blocking world').1.2 := by
  have hanswer := hfunctional.generate request world world'
  simp only [Generation.ask, Provider.stream, hwhole, bind, StateT.bind]
  generalize provider.generate request world = answer at hanswer ⊢
  generalize provider.generate request world' = answer' at hanswer ⊢
  obtain ⟨result, after⟩ := answer
  obtain ⟨result', after'⟩ := answer'
  cases hanswer
  cases result with
  | error e => exact .error e
  | ok response => exact .ok ⟨rfl, fun hmode => by cases hmode⟩

/-- Both ways of reporting the text of `step` come to the same text. -/
theorem Step.sameOutcome_respond (hfunctional : setting.Functional)
    (hwhole : setting.AnswersWhole) (step : Step) (world world' : ω) :
    SameOutcome (Response.Agrees setting.mode)
      (step.respond (setting.delivering .stream) world).1.2
      (step.respond (setting.delivering .blocking) world').1.2 := by
  simp only [respond, Setting.delivering]
  cases hmode : setting.mode with
  | simulation => exact .ok ⟨rfl, fun _ => rfl⟩
  | execution =>
    simp only [Generation.respond]
    cases hresolve : setting.providers.resolve
      (Generation.modelOf setting.configuration.run step) with
    | error e => exact .error e
    | ok found =>
      obtain ⟨name, hknown⟩ := Providers.exists_of_resolve hresolve
      exact sameOutcome_ask (hfunctional hmode name found.1 hknown)
        (hwhole hmode name found.1 hknown) _ world world'

/-- Pieces of text are not lasting. -/
theorem OnlyTokens.lasting_eq {delivery : Delivery} {signals : List Signal}
    (h : OnlyTokens delivery signals) : Event.lasting (signals.filterMap Signal.event?) = [] := by
  obtain ⟨tokens, hsignals, -⟩ := h
  rw [hsignals, Event.lasting, List.filter_eq_nil_iff, List.forall_mem_map]
  exact fun _ _ => Bool.false_ne_true

/-- When text is reported as a whole, no event stands before the report. -/
theorem OnlyTokens.events_eq {signals : List Signal} (h : OnlyTokens .blocking signals) :
    signals.filterMap Signal.event? = [] := by
  obtain ⟨tokens, hsignals, hnone⟩ := h
  rw [hsignals, hnone rfl]
  rfl

/-- The lasting events of two lists behind each other are those of `events` and then those of
`events'`. -/
theorem Event.lasting_append (events events' : List Event) :
    lasting (events ++ events') = lasting events ++ lasting events' :=
  List.filter_append _ _

/-- The announcement of `step` is lasting. -/
theorem Step.lasting_announcement (step : Step) (events : List Event) :
    Event.lasting (step.announcement :: events) = step.announcement :: Event.lasting events := by
  unfold announcement
  split <;> rfl

/-- The announcement of `step` agrees with itself. -/
theorem Step.agrees_announcement (mode : RunMode) (step : Step) :
    step.announcement.Agrees mode step.announcement := by
  unfold announcement
  split
  · exact .stepBefore step.name
  · exact .stepAfter step.name

/-- From states that are alike, both ways of reporting the text of `step` report the same, apart
from the pieces of it, and come to states that are alike. -/
theorem Step.agrees_execute (hfunctional : setting.Functional) (hwhole : setting.AnswersWhole)
    (step : Step) {a b : Variables} (h : a.Alike b) (world world' : ω) :
    let streamed := (step.execute (setting.delivering .stream) a world).1
    let blocked := (step.execute (setting.delivering .blocking) b world').1
    List.Forall₂ (Event.Agrees setting.mode) (Event.lasting (streamed.1.filterMap Signal.event?))
        (blocked.1.filterMap Signal.event?) ∧
      SameOutcome Variables.Alike streamed.2 blocked.2 := by
  have hcombined := h.overlay step.inputs
  cases hkind : step.isPrompt with
  | false =>
    simp only [execute, hkind]
    exact ⟨.cons (.shown step.name hcombined) .nil, .ok hcombined⟩
  | true =>
    have hsame := step.sameOutcome_respond hfunctional hwhole world world'
    have hstreamed := onlyTokens_respond (setting.delivering .stream) step world
    have hblocked := onlyTokens_respond (setting.delivering .blocking) step world'
    simp only [execute, hkind, if_true, bind, StateT.bind]
    generalize step.respond (setting.delivering .stream) world = answer at hsame hstreamed ⊢
    generalize step.respond (setting.delivering .blocking) world' = answer' at hsame hblocked ⊢
    obtain ⟨⟨signals, result⟩, after⟩ := answer
    obtain ⟨⟨signals', result'⟩, after'⟩ := answer'
    -- No event of the generation itself is left on either side.
    have hnone : Event.lasting (signals.filterMap Signal.event?) = [] := hstreamed.lasting_eq
    have hnone' : signals'.filterMap Signal.event? = [] := hblocked.events_eq
    cases hsame with
    | error e =>
      refine ⟨?_, .error e⟩
      show List.Forall₂ _ (Event.lasting (signals.filterMap Signal.event?))
        (signals'.filterMap Signal.event?)
      rw [hnone, hnone']
      exact .nil
    | @ok response response' hresponse =>
      constructor
      · show List.Forall₂ _
          (Event.lasting
            ((signals ++ [Signal.event (.ofResponse response)]).filterMap Signal.event?))
          ((signals' ++ [Signal.event (.ofResponse response')]).filterMap Signal.event?)
        rw [List.filterMap_append, List.filterMap_append, Event.lasting_append, hnone, hnone']
        exact .cons (.generated hresponse) .nil
      · show SameOutcome _ (.ok (recordText _ response.text _))
          (.ok (recordText _ response'.text _))
        rw [← hresponse.1]
        exact .ok (hcombined.recordText response.text _ _)

/-- A journey that reports text in pieces and one that reports it as a whole come to the same. -/
structure Journey.Agrees (mode : RunMode) (streamed blocked : Journey steps) : Prop where
  /-- The same steps are executed. -/
  steps : streamed.visits.map Visit.step = blocked.visits.map Visit.step
  /-- Without the pieces of text, the reports agree one by one. -/
  reports : List.Forall₂ (Event.Agrees mode) (Event.lasting streamed.reports) blocked.reports
  /-- The states at the end are alike. -/
  state : Variables.Alike streamed.state blocked.state

/-- Journeys that are over agree if they end with states that are alike and for the same reason. -/
theorem Journey.agrees_ended (mode : RunMode) {a b : Variables} (h : a.Alike b)
    (failure : Option Failure) :
    (ended a failure : Journey steps).Agrees mode (ended b failure) where
  steps := rfl
  reports := by
    rw [reports_ended, reports_ended]
    cases failure with
    | none => exact .nil
    | some failure => exact .cons (.stepError _ _) .nil
  state := h

/-- Journeys agree if they begin with executions of the same step that agree and go on with journeys
that agree. -/
theorem Journey.Agrees.after {mode : RunMode} {streamed blocked : Journey steps}
    (h : streamed.Agrees mode blocked) {position : Workflow.Position steps}
    {signals signals' : List Signal} {result result' : Except Error Variables}
    (hevents : List.Forall₂ (Event.Agrees mode) (Event.lasting (signals.filterMap Signal.event?))
      (signals'.filterMap Signal.event?)) :
    (Journey.after (.at position signals result) streamed).Agrees mode
      (Journey.after (.at position signals' result') blocked) where
  steps := congrArg (position.step :: ·) h.steps
  reports := by
    rw [reports_after, reports_after, Event.lasting_append]
    refine List.rel_append ?_ h.reports
    show List.Forall₂ _
      (Event.lasting ((steps.step position.step).announcement :: signals.filterMap Signal.event?))
      ((steps.step position.step).announcement :: signals'.filterMap Signal.event?)
    rw [Step.lasting_announcement]
    exact .cons (Step.agrees_announcement mode _) hevents
  state := h.state

/-- From states that are alike, journeys with both ways of reporting text agree. -/
theorem Journey.agrees_walk (hfunctional : setting.Functional) (hwhole : setting.AnswersWhole)
    (remaining : Nat) (position : Workflow.Position steps) {a b : Variables} (h : a.Alike b)
    (world world' : ω) :
    (walk (setting.delivering .stream) remaining position a world).1.Agrees setting.mode
      (walk (setting.delivering .blocking) remaining position b world').1 := by
  -- The worlds come apart at the first request, but the answers do not depend on them: only the
  -- states have to stay alike.
  induction remaining generalizing position a b world world' with
  | zero => exact agrees_ended _ h _
  | succ remaining ih =>
    obtain ⟨hevents, hresult⟩ :=
      (steps.step position.step).agrees_execute hfunctional hwhole h world world'
    simp only [walk, bind, StateT.bind]
    generalize (steps.step position.step).execute (setting.delivering .stream) a world =
      execution at hevents hresult ⊢
    generalize (steps.step position.step).execute (setting.delivering .blocking) b world' =
      execution' at hevents hresult ⊢
    obtain ⟨⟨signals, result⟩, after⟩ := execution
    obtain ⟨⟨signals', result'⟩, after'⟩ := execution'
    cases hresult with
    | error e => exact (agrees_ended _ h _).after hevents
    | @ok state state' hstate =>
      simp only
      cases steps.next position with
      | finish => exact (agrees_ended _ hstate _).after hevents
      | missing target => exact (agrees_ended _ hstate _).after hevents
      | go position' => exact (ih position' hstate after after').after hevents

/-- The records of journeys that agree come to the same. -/
theorem Journey.Agrees.record {mode : RunMode} {streamed blocked : Journey steps}
    (h : streamed.Agrees mode blocked) :
    RunRecord.Agrees mode streamed.visits blocked.visits ⟨streamed.signals, streamed.state⟩
      ⟨blocked.signals, blocked.state⟩ where
  steps := h.steps
  state := h.state
  events := by
    show List.Forall₂ _ (Event.lasting (streamed.signals.filterMap Signal.event?))
      (blocked.signals.filterMap Signal.event?)
    rw [filterMap_event?_signals, filterMap_event?_signals, Event.lasting_append]
    exact List.rel_append h.reports (.cons (.workflowDone h.state none) .nil)

end Agreement

/-- Every run that reports text in pieces replays it. If the answers of providers are functions of
the requests and the providers answer in pieces with their whole answer, it agrees with every run
that reports text as a whole. -/
theorem Workflow.run_delivery (setting : Setting ω) (steps : Workflow) (state : Variables)
    (world : ω) :
    Replays (steps.run (setting.delivering .stream) state world).1.events ∧
      (setting.Functional → setting.AnswersWhole → ∀ world',
        RunRecord.Agrees setting.mode (steps.visits (setting.delivering .stream) state world)
          (steps.visits (setting.delivering .blocking) state world')
          (steps.run (setting.delivering .stream) state world).1
          (steps.run (setting.delivering .blocking) state world').1) := by
  have halike := Variables.Alike.refl state
  cases hstart : steps.firstPrompt? with
  | none =>
    have hjourney := fun delivery world =>
      journey?_of_none (setting.delivering delivery) state world hstart
    rw [run_eq_of_none _ state world (hjourney .stream world)]
    refine ⟨replays_of_silent (List.forall_mem_singleton.2 rfl), fun _ _ world' => ?_⟩
    rw [run_eq_of_none _ state world' (hjourney .blocking world'),
      visits_of_none _ state world hstart, visits_of_none _ state world' hstart]
    exact ⟨rfl, halike, .cons (.workflowDone halike _) .nil⟩
  | some start =>
    -- Where a run starts does not depend on how text is reported.
    have hjourney := fun delivery world =>
      journey?_of_some (setting.delivering delivery) state world hstart
    rw [run_eq_of_some _ state world (hjourney .stream world)]
    refine ⟨Journey.replays_walk rfl _ _ state world, fun hfunctional hwhole world' => ?_⟩
    rw [run_eq_of_some _ state world' (hjourney .blocking world'),
      visits_of_some _ state world hstart, visits_of_some _ state world' hstart]
    exact (Journey.agrees_walk hfunctional hwhole _ ⟨start, none⟩ halike world world').record

/-- The prompt that `echo` gives back is reported as one piece, and the run of `roundabout` goes
round in the same way as without pieces. -/
theorem run_delivery_roundabout :
    echoing.Functional ∧ echoing.AnswersWhole ∧
      RunRecord.Agrees .execution (roundabout.visits (echoing.delivering .stream) [] 0)
        (roundabout.visits (echoing.delivering .blocking) [] 7)
        (roundabout.run (echoing.delivering .stream) [] 0).1
        (roundabout.run (echoing.delivering .blocking) [] 7).1 ∧
      (roundabout.run (echoing.delivering .stream) [] 0).1.events.filter
          (fun event => event.kind = .stepResultStream) =
        [.stepResultStream "Who?", .stepResultStream "Who?"] := by
  have hwhole : echoing.AnswersWhole := by
    intro _ name provider hfound
    cases eq_echo hfound
    rfl
  exact ⟨functional_echoing, hwhole,
    (Workflow.run_delivery echoing roundabout [] 0).2 functional_echoing hwhole 7,
    by decide +kernel⟩

end Promptbook
