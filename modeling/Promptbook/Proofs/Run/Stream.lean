import Mathlib.Data.List.Basic
import Promptbook.Proofs.Run.State

/-!
# Text That Comes in Pieces

A provider may answer with a stream of pieces, in which it may mark a piece as the last one or fail.
What a run takes from such a stream ends there, or else where the stream ends. The run reports the
pieces that it takes, and the text of the step is what they make up. If the provider fails, the step
fails, and the run ends with the state that it had before the step.

## Main definitions

* `Generation.taken`, `Generation.contents`, `Generation.breach?`: the part of a stream that is
  taken, the texts in it, and the failure with which it ends.
* `worldBehind`: the world behind some visits of a run.
* `RunRecord.Streams`: what a run makes of a stream.

## Main results

* `Generation.consume_eq`: the loop over a stream takes this part of it, and no more.
* `Journey.visit_eq_of_walk`: each visit of a run is the execution of its step in the state and in
  the world behind the visits before it.
* `Workflow.run_streams`: every run that calls providers and reports text in pieces takes the
  streams of its steps.
-/

namespace Promptbook

variable {ω : Type} {steps : Workflow}

namespace Generation

/-- The stream goes on behind an item: it is a piece, and not marked as the last one. -/
def goesOn : Except Error Chunk → Bool
  | .ok chunk => !chunk.isLast
  | .error _ => false

/-- The part of a stream that is taken: the items behind which the stream goes on, and the first
item behind which it does not, if there is one. -/
def taken (items : List (Except Error Chunk)) : List (Except Error Chunk) :=
  items.takeWhile goesOn ++ (items.dropWhile goesOn).take 1

/-- The texts of the pieces among `items`. -/
def contents (items : List (Except Error Chunk)) : List String :=
  items.filterMap fun item => item.toOption.map Chunk.content

/-- The failure with which `items` end, if they end with one. -/
def breach? (items : List (Except Error Chunk)) : Option Error :=
  match items.getLast? with
  | some (.error e) => some e
  | _ => none

/-- What a part of a stream comes to: the failure at its end, or all of its texts together. -/
def outcome (items : List (Except Error Chunk)) : Except Error String :=
  match breach? items with
  | some e => .error e
  | none => .ok (String.join (contents items))

/-- The texts in a part of a stream that are not empty. -/
def tokens (items : List (Except Error Chunk)) : List String :=
  (contents items).filter (· ≠ "")

section Taking

variable {item : Except Error Chunk} {chunk : Chunk}

/-- If the stream does not go on behind `item`, nothing more is taken. -/
theorem taken_of_not_goesOn (h : goesOn item = false) (rest : List (Except Error Chunk)) :
    taken (item :: rest) = [item] := by
  simp [taken, h]

/-- If the stream goes on behind `item`, the `rest` of it is taken in the same way. -/
theorem taken_of_goesOn (h : goesOn item = true) (rest : List (Except Error Chunk)) :
    taken (item :: rest) = item :: taken rest := by
  simp [taken, h]

/-- Where there are no texts, none is reported. -/
@[simp] theorem tokens_nil : tokens [] = [] := rfl

/-- The text of `chunk` stands in front of the others. -/
@[simp] theorem contents_ok (chunk : Chunk) (items : List (Except Error Chunk)) :
    contents (.ok chunk :: items) = chunk.content :: contents items := rfl

/-- The text of `chunk` is reported if it is not empty. -/
@[simp] theorem tokens_ok (chunk : Chunk) (items : List (Except Error Chunk)) :
    tokens (.ok chunk :: items) =
      (if chunk.content = "" then [] else [chunk.content]) ++ tokens items := by
  by_cases hempty : chunk.content = "" <;> simp [tokens, hempty]

/-- Nothing makes up the empty text. -/
@[simp] theorem outcome_nil : outcome [] = .ok "" := rfl

/-- The text of `chunk` stands in front of what the others make up. -/
@[simp] theorem outcome_ok (chunk : Chunk) (items : List (Except Error Chunk)) :
    outcome (.ok chunk :: items) = (outcome items).map (chunk.content ++ ·) := by
  have hbreach : breach? (.ok chunk :: items) = breach? items := by
    cases items with
    | nil => rfl
    | cons next items => simp [breach?]
  rw [outcome, outcome, hbreach]
  cases breach? items with
  | some e => rfl
  | none => simp [String.join_cons, Except.map]

/-- The loop over a stream takes the part up to its end, to a failure or to the last piece. It
reports the texts in it that are not empty, and gives the failure or all texts together. -/
theorem consume_eq (items : List (Except Error Chunk)) :
    consume items = (tokens (taken items), outcome (taken items)) := by
  induction items with
  | nil => rfl
  | cons item rest ih =>
    cases item with
    | error e => rfl
    | ok chunk =>
      cases hlast : chunk.isLast with
      | true =>
        -- The text of the last piece counts, and nothing behind it.
        rw [taken_of_not_goesOn (by simp [goesOn, hlast])]
        simp [consume, hlast, Except.map]
      | false =>
        rw [taken_of_goesOn (by simp [goesOn, hlast])]
        simp [consume, hlast, ih]

end Taking

end Generation

/-- The items that `provider` yields. A stream that cannot be opened is one that begins with the
failure. -/
def Provider.items (provider : Provider ω) (request : Request) (world : ω) :
    List (Except Error Chunk) :=
  match (provider.stream request world).1 with
  | .ok items => items
  | .error e => [.error e]

/-- The world behind the listed visits, each of which is the execution of its step in the state and
in the world behind those before it. -/
def worldBehind (setting : Setting ω) : Variables → ω → List (Visit steps) → ω
  | _, world, [] => world
  | state, world, visit :: rest =>
    worldBehind setting (visit.update state)
      ((steps.step visit.step).execute setting state world).2 rest

/-- What a run makes of the `part` that it takes from the stream of `provider` at `visit`. -/
structure RunRecord.Streams (state : Variables) (provider : String)
    (part : List (Except Error Chunk)) (earlier : List (Visit steps)) (visit : Visit steps)
    (later : List (Visit steps)) (record : RunRecord) : Prop where
  /-- The events of the visit stand behind those of the visits before it. -/
  reported : ∃ rest, record.events = earlier.flatMap Visit.events ++ visit.events ++ rest
  /-- If the part ends with a failure, the texts that are not empty are reported and the step fails.
  No text is generated, and the run ends with the state before the step. -/
  broken : ∀ e, Generation.breach? part = some e →
    visit.events = .stepBefore (steps.step visit.step).name ::
        (Generation.tokens part).map .stepResultStream ∧
      visit.result = .error e ∧ later = [] ∧
      record.events = earlier.flatMap Visit.events ++ visit.events ++
        [.stepError e.message (steps.step visit.step).name, .workflowDone record.state none] ∧
      record.state = threaded state earlier
  /-- If the part does not end with a failure, the texts that are not empty are reported, and all
  texts together are the text of the step, in its report and in the state behind it. -/
  whole : Generation.breach? part = none →
    visit.events = .stepBefore (steps.step visit.step).name ::
        (Generation.tokens part).map .stepResultStream ++
          [.ofResponse (.ofText provider (String.join (Generation.contents part)))] ∧
      ∃ result, visit.result = .ok result ∧ result = threaded state (earlier ++ [visit]) ∧
        result.value? Reserved.result = some (.string (String.join (Generation.contents part)))

section Execution

variable {setting : Setting ω} {step : Step} {provider : Provider ω} {model : String}

/-- A `provider` that is asked for pieces gives what its stream comes to. -/
theorem Generation.ask_stream (provider : Provider ω) (request : Request) (world : ω) :
    (ask provider request .stream world).1 =
      (.request provider.name provider.pieces.isSome request ::
          (tokens (taken (provider.items request world))).map tokenSignal,
        (outcome (taken (provider.items request world))).map (Response.ofText provider.name)) := by
  obtain ⟨⟨result, after⟩, hresult⟩ : ∃ r, provider.stream request world = r := ⟨_, rfl⟩
  simp only [ask, Provider.items, bind, StateT.bind, hresult]
  cases result with
  | error e => rfl
  | ok items =>
    simp only [consume_eq]
    rfl

/-- What `step` asks its provider for. -/
def Step.request (setting : Setting ω) (step : Step) (model : String) : Request :=
  ⟨step.prompt, model, Generation.temperatureOf setting.configuration.run step⟩

/-- A `step` that generates text in pieces reports those that it takes. It fails as its stream does,
or else reports and records all of its text. -/
theorem Step.execute_stream (hmode : setting.mode = .execution)
    (hdelivery : setting.delivery = .stream) (hkind : step.isPrompt = true)
    (hresolve : setting.providers.resolve (Generation.modelOf setting.configuration.run step) =
      .ok (provider, model)) (state : Variables) (world : ω) :
    let request := step.request setting model
    let part := Generation.taken (provider.items request world)
    let signals := Signal.request provider.name provider.pieces.isSome request ::
      (Generation.tokens part).map tokenSignal
    (step.execute setting state world).1 =
      match Generation.outcome part with
      | .error e => (signals, .error e)
      | .ok text => (signals ++ [.event (.ofResponse (.ofText provider.name text))],
          .ok (recordText (state.overlay step.inputs) text (Signal.total signals))) := by
  intro request part signals
  -- With this setting the step is answered by its provider, and the answer is the outcome of the
  -- part taken.
  have hask : (step.respond setting world).1 =
      (signals, (Generation.outcome part).map (Response.ofText provider.name)) := by
    simp only [respond, Generation.respond, hmode, hdelivery, hresolve]
    exact Generation.ask_stream provider request world
  simp only [execute, hkind, if_true, bind, StateT.bind]
  generalize step.respond setting world = answer at hask ⊢
  obtain ⟨answer, after⟩ := answer
  cases hask
  cases Generation.outcome part <;> rfl

/-- The events of a visit that makes a request are the announcement of its step, the pieces of text,
and what else there is to report. -/
theorem Visit.events_of_request {visit : Visit steps} {first : Event} {name : String}
    {inPieces : Bool} {request : Request} {tokens : List String} (last : List Signal)
    (h : visit.signals = .event first ::
      (.request name inPieces request :: tokens.map tokenSignal ++ last)) :
    visit.events =
      first :: tokens.map .stepResultStream ++ last.filterMap Signal.event? := by
  rw [events, h]
  show first :: (tokens.map tokenSignal ++ last).filterMap Signal.event? = _
  rw [List.filterMap_append, filterMap_event?_tokenSignals]
  rfl

end Execution

/-- Each `visit` of a run is the execution of its step in the state and in the world behind the
visits before it. -/
theorem Journey.visit_eq_of_walk (setting : Setting ω) {remaining : Nat}
    {position : Workflow.Position steps} {state : Variables} {world : ω}
    {earlier : List (Visit steps)} {visit : Visit steps} {later : List (Visit steps)}
    (hvisits : (walk setting remaining position state world).1.visits = earlier ++ visit :: later) :
    let execution := ((steps.step visit.step).execute setting (threaded state earlier)
      (worldBehind setting state world earlier)).1
    visit.signals = .event (steps.step visit.step).announcement :: execution.1 ∧
      visit.result = execution.2 := by
  induction remaining generalizing position state world earlier with
  | zero =>
    have hnone : [] = earlier ++ visit :: later := hvisits
    exact absurd hnone.symm (by simp)
  | succ remaining ih =>
    have hexecutes := (steps.step position.step).executes_execute setting state world
    obtain ⟨⟨⟨signals, result⟩, after⟩, hexecute⟩ :
      ∃ r, (steps.step position.step).execute setting state world = r := ⟨_, rfl⟩
    rw [hexecute] at hexecutes
    simp only [walk, bind, StateT.bind, hexecute] at hvisits
    -- Where the run ends, there is one visit only.
    have hsingle : ∀ {result}, [Visit.at position signals result] = earlier ++ visit :: later →
        ((steps.step position.step).execute setting state world).1.2 = result →
        let execution := ((steps.step visit.step).execute setting (threaded state earlier)
          (worldBehind setting state world earlier)).1
        visit.signals = .event (steps.step visit.step).announcement :: execution.1 ∧
          visit.result = execution.2 := by
      intro result hvisits hresult
      obtain ⟨rfl, rfl, rfl⟩ : earlier = [] ∧ visit = .at position signals result ∧ later = [] := by
        simpa [List.singleton_eq_append_iff] using hvisits
      exact ⟨by simp [Visit.at, worldBehind, threaded, hexecute], hresult.symm⟩
    have hfirst := congrArg (fun execution => execution.1.2) hexecute
    cases result with
    | error e => exact hsingle hvisits hfirst
    | ok state' =>
      cases hnext : steps.next position with
      | finish =>
        simp only [hnext] at hvisits
        exact hsingle hvisits hfirst
      | missing target =>
        simp only [hnext] at hvisits
        exact hsingle hvisits hfirst
      | go position' =>
        simp only [hnext] at hvisits
        cases earlier with
        | nil =>
          obtain ⟨rfl, -⟩ := List.cons.inj hvisits
          exact ⟨by simp [worldBehind, threaded, hexecute], hfirst.symm⟩
        | cons first earlier =>
          obtain ⟨rfl, hrest⟩ := List.cons.inj hvisits
          have hupdate : (Visit.at position signals (.ok state')).update state = state' :=
            (Visit.executed_at hexecutes).update_eq rfl
          have hstate : threaded state (.at position signals (.ok state') :: earlier) =
              threaded state' earlier := by rw [threaded_cons, hupdate]
          have hworld :
              worldBehind setting state world (.at position signals (.ok state') :: earlier) =
                worldBehind setting state' after earlier := by
            rw [worldBehind, hupdate]
            exact congrArg (worldBehind setting state' · earlier) (congrArg Prod.snd hexecute)
          have hrested := ih hrest
          rw [← hstate, ← hworld] at hrested
          exact hrested

/-- What a journey makes of a stream can be read off the signals and the result of the visit. -/
theorem Journey.Walks.streams {delivery : Delivery} {limit remaining : Nat}
    {position : Workflow.Position steps} {state : Variables} {journey : Journey steps}
    (h : Walks delivery limit remaining position state journey) {earlier : List (Visit steps)}
    {visit : Visit steps} {later : List (Visit steps)}
    (hvisits : journey.visits = earlier ++ visit :: later) {provider : String}
    {part : List (Except Error Chunk)}
    (hbroken : ∀ e, Generation.breach? part = some e →
      visit.events = .stepBefore (steps.step visit.step).name ::
          (Generation.tokens part).map .stepResultStream ∧ visit.result = .error e)
    (hwhole : Generation.breach? part = none →
      visit.events = .stepBefore (steps.step visit.step).name ::
          (Generation.tokens part).map .stepResultStream ++
            [.ofResponse (.ofText provider (String.join (Generation.contents part)))] ∧
        ∃ result, visit.result = .ok result ∧
          result.value? Reserved.result = some (.string (String.join (Generation.contents part)))) :
    RunRecord.Streams state provider part earlier visit later ⟨journey.signals, journey.state⟩ where
  reported := by
    obtain ⟨rest, hrest⟩ := h.threads.reported
    rw [hvisits, List.flatMap_append, List.flatMap_cons, ← List.append_assoc, List.append_assoc]
      at hrest
    exact ⟨_, hrest⟩
  broken e he := by
    obtain ⟨hevents, hresult⟩ := hbroken e he
    obtain ⟨rfl, hfailure⟩ := h.failure_of_append hvisits hresult
    refine ⟨hevents, hresult, rfl, journey.filterMap_event?_signals.trans ?_, ?_⟩
    · rw [reports, hvisits, hfailure, List.flatMap_append, List.flatMap_singleton,
        List.append_assoc]
      rfl
    · -- A step that fails makes no update.
      show journey.state = threaded state earlier
      rw [h.state_eq, hvisits, threaded_concat, Visit.update, hresult]
  whole hnone := by
    obtain ⟨hevents, result, hresult, hvalue⟩ := hwhole hnone
    exact ⟨hevents, result, hresult, h.result_of_append hvisits hresult, hvalue⟩

/-- Every run that calls providers and reports text in pieces takes, at each of its steps that
generates text, the part of the stream of its provider up to the end, to a failure or to the last
piece, and makes of it what there is to make. -/
theorem Workflow.run_streams (configuration : Configuration) (providers : Providers ω)
    (steps : Workflow) (state : Variables) (world : ω) {earlier : List (Visit steps)}
    {visit : Visit steps} {later : List (Visit steps)} {provider : Provider ω} {model : String} :
    let setting : Setting ω := ⟨configuration, providers, .execution, .stream⟩
    let step := steps.step visit.step
    steps.visits setting state world = earlier ++ visit :: later →
    step.isPrompt = true →
    providers.resolve (Generation.modelOf configuration.run step) = .ok (provider, model) →
    RunRecord.Streams state provider.name
      (Generation.taken (provider.items (step.request setting model)
        (worldBehind setting state world earlier)))
      earlier visit later (steps.run setting state world).1 := by
  intro setting step hvisits hkind hresolve
  cases hstart : steps.firstPrompt? with
  | none =>
    rw [visits_of_none setting state world hstart] at hvisits
    simp at hvisits
  | some start =>
    rw [visits_of_some setting state world hstart] at hvisits
    rw [run_eq_of_some setting state world (journey?_of_some setting state world hstart)]
    -- The visit is an execution of its step in the state and the world that the earlier visits
    -- leave.
    obtain ⟨hsignals, hresult⟩ := Journey.visit_eq_of_walk setting hvisits
    have hmode : setting.mode = .execution := rfl
    have hexecute := Step.execute_stream hmode rfl hkind hresolve (threaded state earlier)
      (worldBehind setting state world earlier)
    rw [hexecute] at hsignals hresult
    generalize Generation.taken (provider.items (step.request setting model)
      (worldBehind setting state world earlier)) = part at hsignals hresult ⊢
    rw [show (steps.step visit.step).announcement = .stepBefore step.name from if_pos hkind]
      at hsignals
    -- What is left to tell is a matter of the part taken: whether it ends with a failure.
    refine (Journey.walks_walk setting _ _ state world).streams hvisits (fun e he => ?_)
      fun hnone => ?_
    · simp only [Generation.outcome, he] at hsignals hresult
      rw [← List.append_nil (Signal.request _ _ _ :: _)] at hsignals
      exact ⟨(Visit.events_of_request [] hsignals).trans (List.append_nil _), hresult⟩
    · simp only [Generation.outcome, hnone] at hsignals hresult
      refine ⟨Visit.events_of_request _ hsignals, _, hresult, ?_⟩
      rw [recordText, Fields.value?_put, if_pos rfl]

/-- A provider that answers with the streams of its world, one after the other. -/
def player : Provider (List (List (Except Error Chunk))) where
  name := "player"
  generate _ := return .ok (.ofText "player" "")
  pieces := some fun _ => do
    let streams ← get
    set streams.tail
    return .ok (streams.headD [])

/-- Two steps that generate text. -/
def duet : Workflow :=
  [⟨"First", .prompt, "", [], [], "How does it begin?", none⟩,
    ⟨"Second", .prompt, "", [], [], "How does it go on?", none⟩]

/-- The streams of the two steps: one goes on behind its last piece, the other one fails. -/
def recital : List (List (Except Error Chunk)) :=
  [[.ok ⟨"Once ", false⟩, .ok ⟨"", false⟩, .ok ⟨"upon", true⟩, .ok ⟨" a time", false⟩],
    [.ok ⟨"The ", false⟩, .error (.stream "player" "out of breath"), .ok ⟨"end", true⟩]]

/-- In `duet` the first text ends with its last piece, and the second step fails behind a piece of
its text. -/
theorem run_streams_duet :
    let configuration : Configuration := ⟨⟨"player/any", 0, 5⟩, ⟨0, 0, ""⟩⟩
    let setting : Setting _ := ⟨configuration, .ofList [player], .execution, .stream⟩
    (∃ first second : Visit duet, duet.visits setting [] recital = [first] ++ second :: [] ∧
      (duet.step second.step).isPrompt = true ∧
      setting.providers.resolve (Generation.modelOf configuration.run (duet.step second.step)) =
        .ok (player, "any") ∧
      RunRecord.Streams [] "player"
        [.ok ⟨"The ", false⟩, .error (.stream "player" "out of breath")] [first] second []
        (duet.run setting [] recital).1) ∧
    (duet.run setting [] recital).1.events.dropLast =
      [.stepBefore "First", .stepResultStream "Once ", .stepResultStream "upon",
        .ofResponse (.ofText "player" "Once upon"), .stepBefore "Second", .stepResultStream "The ",
        .stepError (Error.stream "player" "out of breath").message "Second"] := by
  intro configuration setting
  refine ⟨?_, by decide +kernel⟩
  obtain ⟨first, second, hvisits⟩ :=
    List.length_eq_two.1 (show (duet.visits setting [] recital).length = 2 by decide +kernel)
  have hsteps : (duet.visits setting [] recital).map Visit.step =
      [⟨0, by decide⟩, ⟨1, by decide⟩] := by decide +kernel
  rw [hvisits] at hsteps
  obtain ⟨hfirst, hsecond⟩ : first.step = ⟨0, by decide⟩ ∧ second.step = ⟨1, by decide⟩ := by
    simpa using hsteps
  have hkind : (duet.step second.step).isPrompt = true := by
    rw [hsecond]
    rfl
  have hresolve : setting.providers.resolve
      (Generation.modelOf configuration.run (duet.step second.step)) = .ok (player, "any") := by
    have hmodel :
        Generation.modelOf configuration.run (duet.step ⟨1, by decide⟩) = "player/any" := by
      decide +kernel
    have hsplit : Providers.splitModel? "player/any" = some ("player", "any") := by decide +kernel
    rw [hsecond, hmodel, Providers.resolve, hsplit]
    rfl
  -- The first step has taken its stream out of the world.
  have hworld : worldBehind setting [] recital [first] = recital.tail := by
    rw [worldBehind, hfirst]
    show ((duet.step ⟨0, by decide⟩).execute setting [] recital).2 = recital.tail
    decide +kernel
  have hstreams := Workflow.run_streams configuration _ duet [] recital
    (show _ = [first] ++ second :: [] from hvisits) hkind hresolve
  rw [hworld] at hstreams
  exact ⟨first, second, hvisits, hkind, hresolve, hstreams⟩

end Promptbook
