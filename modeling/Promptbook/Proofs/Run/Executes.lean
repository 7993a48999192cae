import Promptbook.Run.Execution

/-!
# What a Step Can Do

The execution of a step as a relation between the state before it, the signals that it sends and
its result. Whatever is proved about runs uses this relation instead of the way in which a text is
obtained.

* `OnlyTokens` — the events among some signals are pieces of text, of which there are none when text
  is reported as a whole.
* `Step.Executes` — the three things that the execution of a step can come to: a deciding step shows
  the state, a generation is reported and recorded, or it fails and leaves no state.
* `Step.executes_execute` — every execution is one of them.
* `Setting.Functional` — what the providers answer is a function of the request.
* `Setting.Functional.fst_execute` — what an execution sends and comes to is then the same in every
  world.
-/

namespace Promptbook

/-- The events among `signals` report pieces of text only, and none of them if text is reported as a
whole. -/
def OnlyTokens (delivery : Delivery) (signals : List Signal) : Prop :=
  ∃ tokens : List String, signals.filterMap Signal.event? = tokens.map Event.stepResultStream ∧
    (delivery = .blocking → tokens = [])

/-- From `state`, the execution of `step` sends the signals and has the result. -/
inductive Step.Executes (delivery : Delivery) (step : Step) (state : Variables) :
    List Signal → Except Error Variables → Prop where
  /-- A deciding step shows `state` with its inputs laid over it. -/
  | decision (hkind : step.isPrompt = false) :
    Executes delivery step state
      [.event (.stepAfter step.name (some (state.overlay step.inputs)))]
      (.ok (state.overlay step.inputs))
  /-- A generated text is reported and recorded. -/
  | generation (hkind : step.isPrompt = true) {signals : List Signal}
    (htokens : OnlyTokens delivery signals) (response : Response) :
    Executes delivery step state (signals ++ [.event (.ofResponse response)])
      (.ok (recordText (state.overlay step.inputs) response.text (Signal.total signals)))
  /-- A generation fails with `e`, maybe after pieces of its text have been reported. -/
  | failure (hkind : step.isPrompt = true) {signals : List Signal}
    (htokens : OnlyTokens delivery signals) (e : Error) :
    Executes delivery step state signals (.error e)

section Tokens

variable {ω : Type} {delivery : Delivery}

/-- Signals without events report nothing. -/
theorem onlyTokens_of_silent {signals : List Signal}
    (h : signals.filterMap Signal.event? = []) : OnlyTokens delivery signals :=
  ⟨[], h, fun _ => rfl⟩

/-- When text is reported in pieces, `signals` may report `tokens` one by one. -/
theorem onlyTokens_stream {signals : List Signal} (tokens : List String)
    (h : signals.filterMap Signal.event? = tokens.map Event.stepResultStream) :
    OnlyTokens .stream signals :=
  ⟨tokens, h, nofun⟩

/-- The events among the reports of `tokens`. -/
theorem filterMap_event?_tokenSignals (tokens : List String) :
    (tokens.map tokenSignal).filterMap Signal.event? = tokens.map Event.stepResultStream := by
  rw [List.filterMap_map]
  exact congrFun List.filterMap_eq_map tokens

/-- The pieces in which the made-up text of `step` is reported. -/
def Simulation.tokens (settings : SimulationSettings) (step : Step) : List String :=
  match statedText? step with
  | some text => (Text.runs text.toList).map String.ofList
  | none => [settings.placeholder]

/-- The events of the made-up text of `step` report its pieces. -/
theorem Simulation.filterMap_event?_respond (settings : SimulationSettings) (step : Step) :
    (respond settings .stream step).1.filterMap Signal.event? =
      (tokens settings step).map Event.stepResultStream := by
  show (tokenSignals settings step ++ [Signal.pause settings.latency]).filterMap Signal.event? = _
  rw [List.filterMap_append]
  refine (List.append_nil _).trans ?_
  unfold tokenSignals tokens
  cases statedText? step with
  | none => rfl
  | some text =>
    rw [List.filterMap_flatMap]
    -- A pause stands behind every piece, but it is no event.
    show (Text.runs text.toList).flatMap
      (fun token => [Event.stepResultStream (String.ofList token)]) = _
    rw [List.map_map, List.map_eq_flatMap]
    rfl

/-- A simulated generation reports pieces of text only. -/
theorem onlyTokens_simulation (settings : SimulationSettings) (step : Step) :
    OnlyTokens delivery (Simulation.respond settings delivery step).1 := by
  cases delivery with
  | blocking => exact onlyTokens_of_silent rfl
  | stream => exact onlyTokens_stream _ (Simulation.filterMap_event?_respond settings step)

/-- A `provider` that is asked for a text reports pieces of it only. -/
theorem onlyTokens_ask (provider : Provider ω) (request : Request) (world : ω) :
    OnlyTokens delivery (Generation.ask provider request delivery world).1.1 := by
  cases delivery with
  | blocking => exact onlyTokens_of_silent rfl
  | stream =>
    obtain ⟨⟨result, after⟩, hresult⟩ : ∃ r, provider.stream request world = r := ⟨_, rfl⟩
    simp only [Generation.ask, bind, StateT.bind, hresult]
    cases result with
    | error e => exact onlyTokens_of_silent rfl
    | ok pieces =>
      refine onlyTokens_stream (Generation.consume pieces).1 ?_
      exact filterMap_event?_tokenSignals _

/-- Obtaining the text of `step` reports pieces of it only. -/
theorem onlyTokens_respond (setting : Setting ω) (step : Step) (world : ω) :
    OnlyTokens setting.delivery (step.respond setting world).1.1 := by
  unfold Step.respond
  cases setting.mode with
  | simulation => exact onlyTokens_simulation setting.configuration.simulation step
  | execution =>
    unfold Generation.respond
    simp only
    cases setting.providers.resolve (Generation.modelOf setting.configuration.run step) with
    | error e => exact onlyTokens_of_silent rfl
    | ok found => exact onlyTokens_ask found.1 _ world

end Tokens

/-- Every execution of `step` is a decision, a generation or a failure. -/
theorem Step.executes_execute {ω : Type} (setting : Setting ω) (step : Step) (state : Variables)
    (world : ω) :
    step.Executes setting.delivery state (step.execute setting state world).1.1
      (step.execute setting state world).1.2 := by
  cases hkind : step.isPrompt with
  | false =>
    simp only [execute, hkind]
    exact .decision hkind
  | true =>
    -- However the text is obtained, the events on the way are pieces of it.
    have htokens := onlyTokens_respond setting step world
    obtain ⟨⟨⟨signals, result⟩, after⟩, hrespond⟩ : ∃ r, step.respond setting world = r := ⟨_, rfl⟩
    rw [hrespond] at htokens
    simp only [execute, hkind, if_true, bind, StateT.bind, hrespond]
    cases result with
    | error e => exact .failure hkind htokens e
    | ok response => exact .generation hkind htokens response

section Worlds

variable {ω : Type}

/-- What `provider` answers, as a whole or in its own way of answering in pieces, is a function of
the request. -/
structure Provider.Functional (provider : Provider ω) : Prop where
  /-- The whole answer does not depend on the world. -/
  generate : ∀ request world world',
    (provider.generate request world).1 = (provider.generate request world').1
  /-- The pieces of the answer do not depend on the world either. -/
  pieces : ∀ answer, provider.pieces = some answer → ∀ request world world',
    (answer request world).1 = (answer request world').1

/-- If providers are called in `setting`, what they answer is a function of the request. -/
def Setting.Functional (setting : Setting ω) : Prop :=
  setting.mode = .execution → ∀ (name : String) (provider : Provider ω),
    Fields.value? setting.providers name = some provider → provider.Functional

/-- The `provider` that is found for `identifier` is one of those that are known. -/
theorem Providers.exists_of_resolve {providers : Providers ω} {identifier model : String}
    {provider : Provider ω} (h : providers.resolve identifier = .ok (provider, model)) :
    ∃ name, Fields.value? providers name = some provider := by
  unfold resolve at h
  split at h
  · cases h
  · rename_i name found _
    split at h
    · rename_i known hknown
      cases h
      exact ⟨name, hknown⟩
    · cases h

namespace Provider.Functional

variable {provider : Provider ω} (h : provider.Functional) (request : Request) (world world' : ω)

include h

/-- The pieces in which a functional provider answers are the same in every world, also if it gives
its whole answer as the only one. -/
theorem fst_stream : (provider.stream request world).1 = (provider.stream request world').1 := by
  unfold stream
  cases hpieces : provider.pieces with
  | some answer => exact h.pieces answer hpieces request world world'
  | none =>
    have hanswer := h.generate request world world'
    simp only [bind, StateT.bind]
    generalize provider.generate request world = whole at hanswer ⊢
    generalize provider.generate request world' = whole' at hanswer ⊢
    obtain ⟨answer, after⟩ := whole
    obtain ⟨answer', after'⟩ := whole'
    cases hanswer
    cases answer <;> rfl

/-- Asking a functional provider gives the same in every world. -/
theorem fst_ask (delivery : Delivery) :
    (Generation.ask provider request delivery world).1 =
      (Generation.ask provider request delivery world').1 := by
  cases delivery with
  | blocking =>
    have hanswer := h.generate request world world'
    exact congrArg (fun answer => ([Signal.request provider.name false request], answer)) hanswer
  | stream =>
    have hanswer := h.fst_stream request world world'
    simp only [Generation.ask, bind, StateT.bind]
    generalize provider.stream request world = whole at hanswer ⊢
    generalize provider.stream request world' = whole' at hanswer ⊢
    obtain ⟨answer, after⟩ := whole
    obtain ⟨answer', after'⟩ := whole'
    cases hanswer
    cases answer <;> rfl

end Provider.Functional

/-- Steps `a` and `b` of the same name and kind with the same inputs are executed alike if their
texts are obtained alike. -/
theorem Step.fst_execute_congr {ω' : Type} {a b : Step} {setting : Setting ω}
    {setting' : Setting ω'} {world : ω} {world' : ω'} (hprompt : a.isPrompt = b.isPrompt)
    (hname : a.name = b.name) (hinputs : a.inputs = b.inputs)
    (hrespond : a.isPrompt = true → (a.respond setting world).1 = (b.respond setting' world').1)
    (state : Variables) :
    (a.execute setting state world).1 = (b.execute setting' state world').1 := by
  cases hkind : a.isPrompt with
  | false =>
    -- A deciding step does not ask for a text.
    simp only [Step.execute, ← hprompt, hkind, hname, hinputs]
    rfl
  | true =>
    have hsame := hrespond hkind
    simp only [Step.execute, ← hprompt, hkind, hinputs, if_true, bind, StateT.bind]
    generalize a.respond setting world = obtained at hsame ⊢
    generalize b.respond setting' world' = obtained' at hsame ⊢
    obtain ⟨⟨signals, result⟩, after⟩ := obtained
    obtain ⟨answer', after'⟩ := obtained'
    cases hsame
    cases result <;> rfl

namespace Setting.Functional

variable {setting : Setting ω} (h : setting.Functional) (step : Step) (world world' : ω)

include h

/-- In a functional setting, the text of `step` is obtained in the same way in every world. -/
theorem fst_respond : (step.respond setting world).1 = (step.respond setting world').1 := by
  unfold Step.respond
  cases hmode : setting.mode with
  | simulation => rfl
  | execution =>
    simp only [Generation.respond]
    cases hresolve : setting.providers.resolve
      (Generation.modelOf setting.configuration.run step) with
    | error e => rfl
    | ok found =>
      obtain ⟨name, hknown⟩ := Providers.exists_of_resolve hresolve
      exact (h hmode name found.1 hknown).fst_ask _ world world' setting.delivery

/-- In a functional setting, an execution of `step` sends the same signals and has the same result
in every world. -/
theorem fst_execute (state : Variables) :
    (step.execute setting state world).1 = (step.execute setting state world').1 :=
  Step.fst_execute_congr rfl rfl rfl (fun _ => h.fst_respond step world world') state

end Setting.Functional

end Worlds

end Promptbook
