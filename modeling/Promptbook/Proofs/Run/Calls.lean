import Promptbook.Proofs.Run.Limit
import Mathlib.Data.List.Forall2
import Mathlib.Data.List.Induction

/-!
# Calls of Providers

A run calls a provider once for each step that generates text, if the text is not made up and the
model of the step leads to a provider. The calls are noted by the providers themselves, in a log
that is kept beside their world. The log does not disturb the run.

## Main definitions

* `Provider.logged`: a provider that notes how it is called.
* `Step.Selects`: the identifier of the model that a step asks for.
* `Resolves`, `Unresolved`: an identifier leads to a provider, or to none.
* `Step.Calls`: the calls that the execution of a step makes. It speaks of the registrations only,
  not of what has been made of them.
* `RunRecord.CallsOnce`: the calls of a run are those of its steps.

## Main results

* `resolve_eq_ok_iff`, `resolve_eq_error_iff`: what is looked up is what identifiers lead to.
* `Step.execute_logged`: an execution notes the calls of the step and is else the one without a log.
* `Journey.walk_logged`: the log of a journey is put together from those of its visits.
* `Workflow.run_calls`: every run calls providers once.
-/

namespace Promptbook

variable {ω : Type}

/-- A call of a provider. -/
structure ProviderCall (ω : Type) where
  /-- The provider. -/
  provider : Provider ω
  /-- Whether the provider answers in pieces, in a way of its own. -/
  inPieces : Bool
  /-- What the provider is asked for. -/
  request : Request

/-- The `action` with a note of `call` at the end of a log. -/
def noted {α : Type} (call : ProviderCall ω) (action : StateM ω α) :
    StateM (ω × List (ProviderCall ω)) α :=
  fun (world, log) =>
    let (a, after) := action world
    (a, after, log ++ [call])

/-- The `provider` with a log of its calls beside its world. -/
def Provider.logged (provider : Provider ω) : Provider (ω × List (ProviderCall ω)) where
  name := provider.name
  generate request := noted ⟨provider, false, request⟩ (provider.generate request)
  pieces := provider.pieces.map fun answer request =>
    noted ⟨provider, true, request⟩ (answer request)

/-- Among `all`, the `provider` is the last one that has been registered under its name. -/
def LastNamed (all : List (Provider ω)) (provider : Provider ω) : Prop :=
  ∃ earlier later, all = earlier ++ provider :: later ∧
    ∀ other ∈ later, other.name ≠ provider.name

/-- The `identifier` leads to `provider` and `model`: the name of the provider is what stands before
the first slash, and the name of the model is all that stands behind it. -/
def Resolves (all : List (Provider ω)) (identifier : String) (provider : Provider ω)
    (model : String) : Prop :=
  identifier = provider.name ++ "/" ++ model ∧ '/' ∉ provider.name.toList ∧
    LastNamed all provider

/-- The `identifier` leads to no provider. -/
inductive Unresolved (all : List (Provider ω)) (identifier : String) : Prop where
  /-- The `identifier` has no slash. -/
  | whole (hslash : '/' ∉ identifier.toList)
  /-- No provider has the `name` that stands before the first slash. -/
  | unknown {name model : String} (hidentifier : identifier = name ++ "/" ++ model)
    (hslash : '/' ∉ name.toList) (hname : ∀ provider ∈ all, provider.name ≠ name)

/-- The identifier of the model that `step` asks for. -/
inductive Step.Selects (settings : RunSettings) (step : Step) : String → Prop where
  /-- The step puts out a `text` that is not empty. -/
  | stated {text : String} (houtput : step.output? Reserved.model = some (.string text))
    (htext : text ≠ "") : Selects settings step text
  /-- The step puts out no such text, so that the identifier is the one of the settings. -/
  | configured (hnone : ∀ text, step.output? Reserved.model = some (.string text) → text = "") :
    Selects settings step settings.model

/-- The calls that the execution of `step` makes when the providers in `all` have been registered,
one after the other. -/
inductive Step.Calls (configuration : Configuration) (mode : RunMode) (delivery : Delivery)
    (all : List (Provider ω)) (step : Step) : List (ProviderCall ω) → Prop where
  /-- Made-up text needs no call. -/
  | simulated (hmode : mode = .simulation) : Calls configuration mode delivery all step []
  /-- A deciding step needs no text. -/
  | decided (hkind : step.isPrompt = false) : Calls configuration mode delivery all step []
  /-- There is no provider to call. -/
  | unresolved {identifier : String} (hmode : mode = .execution) (hkind : step.isPrompt = true)
    (hselects : step.Selects configuration.run identifier)
    (hunresolved : Unresolved all identifier) : Calls configuration mode delivery all step []
  /-- The `provider` is called once. -/
  | called {identifier : String} {provider : Provider ω} {model : String}
    (hmode : mode = .execution) (hkind : step.isPrompt = true)
    (hselects : step.Selects configuration.run identifier)
    (hresolves : Resolves all identifier provider model) :
    Calls configuration mode delivery all step
      [⟨provider, delivery = .stream && provider.pieces.isSome,
        ⟨step.prompt, model, Generation.temperatureOf configuration.run step⟩⟩]

section Registrations

variable {all : List (Provider ω)} {identifier : String}

/-- One more `provider` is registered behind the others. -/
theorem Providers.ofList_concat (all : List (Provider ω)) (provider : Provider ω) :
    Providers.ofList (all ++ [provider]) =
      (Providers.ofList all).put provider.name provider := by
  rw [ofList, List.foldl_append]
  rfl

/-- If `last` is registered behind `all`, it is the last one under its name, and the others are so
as before if they have other names. -/
theorem lastNamed_concat {last provider : Provider ω} :
    LastNamed (all ++ [last]) provider ↔
      provider = last ∨ (last.name ≠ provider.name ∧ LastNamed all provider) := by
  constructor
  · rintro ⟨earlier, later, hall, hlater⟩
    rcases List.eq_nil_or_concat later with rfl | ⟨before, other, rfl⟩
    · exact .inl (List.append_singleton_inj.1 hall).2.symm
    · rw [List.concat_eq_append, ← List.cons_append, ← List.append_assoc] at hall
      obtain ⟨rfl, rfl⟩ := List.append_singleton_inj.1 hall
      exact .inr ⟨hlater last (by simp), earlier, before, rfl,
        fun other hother => hlater other (by simp [hother])⟩
  · rintro (rfl | ⟨hname, earlier, later, rfl, hlater⟩)
    · exact ⟨all, [], rfl, nofun⟩
    · refine ⟨earlier, later ++ [last], by simp, List.forall_mem_append.2 ⟨hlater, ?_⟩⟩
      exact List.forall_mem_singleton.2 hname

/-- A `name` finds the provider that has been registered last under it. -/
theorem Providers.value?_ofList {name : String} {provider : Provider ω} :
    Fields.value? (Providers.ofList all) name = some provider ↔
      provider.name = name ∧ LastNamed all provider := by
  -- A later registration takes the place of an earlier one, so that the list grows at its end.
  induction all using List.reverseRecOn with
  | nil =>
    constructor
    · nofun
    · rintro ⟨-, earlier, later, hall, -⟩
      simp at hall
  | append_singleton all last ih =>
    rw [ofList_concat, Fields.value?_put, lastNamed_concat]
    split
    · rename_i hname
      constructor
      · rintro ⟨⟩
        exact ⟨hname, .inl rfl⟩
      · rintro ⟨hprovider, rfl | ⟨hother, -⟩⟩
        · rfl
        · exact absurd (hname.trans hprovider.symm) hother
    · rename_i hname
      rw [ih]
      refine and_congr_right fun hprovider => ?_
      rw [← hprovider] at hname
      constructor
      · exact fun hlast => .inr ⟨hname, hlast⟩
      · rintro (rfl | ⟨-, hlast⟩)
        · exact absurd rfl hname
        · exact hlast

/-- A `name` finds no provider exactly if none has been registered under it. -/
theorem Providers.value?_ofList_eq_none {name : String} :
    Fields.value? (Providers.ofList all) name = none ↔ ∀ provider ∈ all, provider.name ≠ name := by
  induction all using List.reverseRecOn with
  | nil => exact ⟨fun _ => nofun, fun _ => rfl⟩
  | append_singleton all last ih =>
    rw [ofList_concat, Fields.value?_put, List.forall_mem_append, List.forall_mem_singleton, ← ih]
    split <;> simp [*]

/-- An `identifier` is split into `name` and `model` at the first slash. -/
theorem Providers.splitModel?_eq_some {name model : String} :
    splitModel? identifier = some (name, model) ↔
      identifier = name ++ "/" ++ model ∧ '/' ∉ name.toList := by
  simp only [splitModel?, Option.map_eq_some_iff, Prod.exists, Text.breakAt?_singleton,
    Prod.mk.injEq]
  constructor
  · rintro ⟨before, after, ⟨hsplit, hslash⟩, rfl, rfl⟩
    refine ⟨String.toList_inj.1 ?_, by simpa using hslash⟩
    simp [hsplit]
  · rintro ⟨rfl, hslash⟩
    exact ⟨name.toList, model.toList, ⟨by simp, hslash⟩, by simp, by simp⟩

/-- An `identifier` is not split exactly if it has no slash. -/
theorem Providers.splitModel?_eq_none :
    splitModel? identifier = none ↔ '/' ∉ identifier.toList := by
  constructor
  · intro hnone hslash
    obtain ⟨before, after, hsplit, hfirst⟩ := List.eq_append_cons_of_mem hslash
    rw [splitModel?, Text.breakAt?_singleton.2 ⟨hsplit, hfirst⟩] at hnone
    cases hnone
  · intro hslash
    cases hsplit : splitModel? identifier with
    | none => rfl
    | some parts =>
      obtain ⟨rfl, -⟩ := splitModel?_eq_some.1 (show _ = some (parts.1, parts.2) from hsplit)
      simp at hslash

/-- The provider and the model that are looked up for `identifier` are those to which it leads. -/
theorem resolve_eq_ok_iff {provider : Provider ω} {model : String} :
    (Providers.ofList all).resolve identifier = .ok (provider, model) ↔
      Resolves all identifier provider model := by
  unfold Providers.resolve Resolves
  cases hsplit : Providers.splitModel? identifier with
  | none =>
    have hslash := Providers.splitModel?_eq_none.1 hsplit
    constructor
    · nofun
    · rintro ⟨rfl, -, -⟩
      simp at hslash
  | some parts =>
    obtain ⟨name, rest⟩ := parts
    simp only
    have hparts := Providers.splitModel?_eq_some.1 hsplit
    constructor
    · intro hfound
      cases hvalue : Fields.value? (Providers.ofList all) name with
      | none => simp [hvalue] at hfound
      | some found =>
        simp only [hvalue, Except.ok.injEq, Prod.mk.injEq] at hfound
        obtain ⟨rfl, rfl⟩ := hfound
        obtain ⟨rfl, hlast⟩ := Providers.value?_ofList.1 hvalue
        exact ⟨hparts.1, hparts.2, hlast⟩
    · rintro ⟨hidentifier, hslash, hlast⟩
      -- There is only one way to split at the first slash.
      have hsame := Providers.splitModel?_eq_some.2 ⟨hidentifier, hslash⟩
      rw [hsplit] at hsame
      cases hsame
      rw [Providers.value?_ofList.2 ⟨rfl, hlast⟩]

/-- The look-up fails exactly if `identifier` leads to no provider. -/
theorem resolve_eq_error_iff {e : Error} :
    (Providers.ofList all).resolve identifier = .error e ↔
      Unresolved all identifier ∧ e = .unsupportedModel identifier := by
  unfold Providers.resolve
  -- Without a slash there is no name of a provider; with one it is what stands before the first
  -- slash.
  cases hsplit : Providers.splitModel? identifier with
  | none =>
    have hslash := Providers.splitModel?_eq_none.1 hsplit
    constructor
    · rintro ⟨⟩
      exact ⟨.whole hslash, rfl⟩
    · rintro ⟨-, rfl⟩
      rfl
  | some parts =>
    obtain ⟨name, rest⟩ := parts
    have hparts := Providers.splitModel?_eq_some.1 hsplit
    simp only
    constructor
    · intro hfailed
      cases hvalue : Fields.value? (Providers.ofList all) name with
      | some found => simp [hvalue] at hfailed
      | none =>
        simp only [hvalue, Except.error.injEq] at hfailed
        exact ⟨.unknown hparts.1 hparts.2 (Providers.value?_ofList_eq_none.1 hvalue), hfailed.symm⟩
    · rintro ⟨hunresolved, rfl⟩
      cases hunresolved with
      | whole hslash =>
        cases hsplit.symm.trans (Providers.splitModel?_eq_none.2 hslash)
      | unknown hidentifier hslash hname =>
        cases hsplit.symm.trans (Providers.splitModel?_eq_some.2 ⟨hidentifier, hslash⟩)
        rw [Providers.value?_ofList_eq_none.2 hname]

/-- With logs, an `identifier` leads to the same provider with a log. -/
theorem Providers.resolve_logged (all : List (Provider ω)) (identifier : String) :
    (Providers.ofList (all.map Provider.logged)).resolve identifier =
      ((Providers.ofList all).resolve identifier).map fun (provider, model) =>
        (provider.logged, model) := by
  have hvalue : ∀ name, Fields.value? (Providers.ofList (all.map Provider.logged)) name =
      (Fields.value? (Providers.ofList all) name).map Provider.logged := by
    intro name
    -- The last registration under a name counts, so the induction takes providers off the end.
    induction all using List.reverseRecOn with
    | nil => rfl
    | append_singleton all last ih =>
      rw [List.map_append, List.map_singleton, ofList_concat, ofList_concat, Fields.value?_put,
        Fields.value?_put, ih]
      exact (apply_ite (Option.map Provider.logged) (last.name = name) (some last)
        (Fields.value? (ofList all) name)).symm
  unfold resolve
  cases splitModel? identifier with
  | none => rfl
  | some parts =>
    simp only [hvalue]
    cases Fields.value? (Providers.ofList all) parts.1 <;> rfl

end Registrations

section Steps

variable (configuration : Configuration) (mode : RunMode) (delivery : Delivery)
  (all : List (Provider ω))

/-- A step asks for the model that its outputs or the settings name, and for no other. -/
theorem Step.selects_iff {settings : RunSettings} {step : Step} {identifier : String} :
    step.Selects settings identifier ↔ identifier = Generation.modelOf settings step := by
  unfold Generation.modelOf
  constructor
  · intro h
    cases h with
    | stated houtput htext => rw [outputText?_eq_some.2 ⟨houtput, htext⟩, Option.getD_some]
    | configured hnone =>
      cases htext : step.outputText? Reserved.model with
      | none => rfl
      | some text =>
        -- The outputs name a model, so the settings are not asked.
        obtain ⟨houtput, hne⟩ := outputText?_eq_some.1 htext
        exact absurd (hnone text houtput) hne
  · rintro rfl
    cases htext : step.outputText? Reserved.model with
    | some text =>
      obtain ⟨houtput, hne⟩ := outputText?_eq_some.1 htext
      exact .stated houtput hne
    | none =>
      refine .configured fun text houtput => Decidable.byContradiction fun hne => ?_
      rw [outputText?_eq_some.2 ⟨houtput, hne⟩] at htext
      cases htext

/-- A `provider` that is asked for a text is called once. -/
theorem Generation.ask_logged (provider : Provider ω) (request : Request) (delivery : Delivery)
    (world : ω) (log : List (ProviderCall ω)) :
    ask provider.logged request delivery (world, log) =
      ((ask provider request delivery world).1, (ask provider request delivery world).2,
        log ++ [⟨provider, delivery = .stream && provider.pieces.isSome, request⟩]) := by
  obtain ⟨name, generate, pieces⟩ := provider
  cases delivery with
  | blocking => rfl
  | stream =>
    cases pieces with
    | none =>
      -- The whole answer is the only piece, so that it is asked for.
      simp only [ask, Provider.stream, Provider.logged, noted, bind, StateT.bind, Option.map_none]
      obtain ⟨answer, after⟩ := generate request world
      cases answer <;> rfl
    | some answer =>
      simp only [ask, Provider.stream, Provider.logged, noted, bind, StateT.bind, Option.map_some]
      obtain ⟨pieces, after⟩ := answer request world
      cases pieces <;> rfl

/-- Obtaining the text of `step` makes the calls of the step, notes them and does nothing else but
what is done without a log. -/
theorem Step.respond_logged (step : Step) (hkind : step.isPrompt = true) :
    ∃ calls, step.Calls configuration mode delivery all calls ∧
      ∀ (world : ω) (log : List (ProviderCall ω)),
        step.respond ⟨configuration, .ofList (all.map Provider.logged), mode, delivery⟩
            (world, log) =
          ((step.respond ⟨configuration, .ofList all, mode, delivery⟩ world).1,
            (step.respond ⟨configuration, .ofList all, mode, delivery⟩ world).2, log ++ calls) := by
  -- A simulation asks nobody. An execution asks the provider to which the model leads, if there is
  -- one.
  cases mode with
  | simulation =>
    refine ⟨[], .simulated rfl, fun world log => ?_⟩
    rw [List.append_nil]
    rfl
  | execution =>
    have hselects := Step.selects_iff.2 (Eq.refl (Generation.modelOf configuration.run step))
    simp only [respond, Generation.respond, Providers.resolve_logged]
    cases hresolve :
      (Providers.ofList all).resolve (Generation.modelOf configuration.run step) with
    | error e =>
      refine ⟨[], .unresolved rfl hkind hselects (resolve_eq_error_iff.1 hresolve).1, ?_⟩
      intro world log
      rw [List.append_nil]
      rfl
    | ok found =>
      obtain ⟨provider, model⟩ := found
      refine ⟨_, .called rfl hkind hselects (resolve_eq_ok_iff.1 hresolve), ?_⟩
      exact Generation.ask_logged provider _ delivery

/-- Executing `step` makes the calls of the step, notes them and does nothing else but what is done
without a log. -/
theorem Step.execute_logged (step : Step) :
    ∃ calls, step.Calls configuration mode delivery all calls ∧
      ∀ (state : Variables) (world : ω) (log : List (ProviderCall ω)),
        step.execute ⟨configuration, .ofList (all.map Provider.logged), mode, delivery⟩ state
            (world, log) =
          ((step.execute ⟨configuration, .ofList all, mode, delivery⟩ state world).1,
            (step.execute ⟨configuration, .ofList all, mode, delivery⟩ state world).2,
            log ++ calls) := by
  cases hkind : step.isPrompt with
  | false =>
    refine ⟨[], .decided hkind, fun state world log => ?_⟩
    simp only [execute, hkind, List.append_nil]
    rfl
  | true =>
    obtain ⟨calls, hcalls, hrespond⟩ :=
      respond_logged configuration mode delivery all step hkind
    refine ⟨calls, hcalls, fun state world log => ?_⟩
    simp only [execute, hkind, if_true, bind, StateT.bind, hrespond]
    obtain ⟨⟨signals, result⟩, after⟩ :=
      step.respond ⟨configuration, .ofList all, mode, delivery⟩ world
    cases result <;> rfl

end Steps

section Runs

variable {steps : Workflow}

/-- The calls of a run, of which `log` is kept, are made once, and only where they are due. Each of
the `visits` makes the calls of its step. -/
structure RunRecord.CallsOnce (configuration : Configuration) (mode : RunMode)
    (delivery : Delivery) (all : List (Provider ω)) (visits : List (Visit steps))
    (record : RunRecord) (log : List (ProviderCall ω)) : Prop where
  /-- The `log` consists of the calls of the visits, one visit after the other. -/
  calls : ∃ blocks, List.Forall₂
    (fun visit => (steps.step visit.step).Calls configuration mode delivery all) visits blocks ∧
      log = blocks.flatten
  /-- Made-up text needs no call. -/
  simulation : mode = .simulation → log = []
  /-- A step with a model that leads to no provider is only announced. Its failure ends the run, and
  it is the only one that is reported. -/
  unresolved : mode = .execution → ∀ earlier visit later, visits = earlier ++ visit :: later →
    (steps.step visit.step).isPrompt = true →
    ∀ identifier, (steps.step visit.step).Selects configuration.run identifier →
    Unresolved all identifier →
      later = [] ∧ visit.events = [(steps.step visit.step).announcement] ∧
        visit.result = .error (.unsupportedModel identifier) ∧
        record.events.filter (·.kind = .stepError) =
          [.stepError (Error.unsupportedModel identifier).message (steps.step visit.step).name]

/-- In simulation, a step makes no calls. -/
theorem Step.Calls.eq_nil {configuration : Configuration} {delivery : Delivery}
    {all : List (Provider ω)} {step : Step} {calls : List (ProviderCall ω)}
    (h : step.Calls configuration .simulation delivery all calls) : calls = [] := by
  cases h with
  | simulated | decided | unresolved => rfl
  | called hmode => cases hmode

/-- In simulation, no visits make calls. -/
theorem Step.flatten_eq_nil_of_calls {configuration : Configuration} {delivery : Delivery}
    {all : List (Provider ω)} {visits : List (Visit steps)} {blocks : List (List (ProviderCall ω))}
    (h : List.Forall₂
      (fun visit => (steps.step visit.step).Calls configuration .simulation delivery all)
      visits blocks) : blocks.flatten = [] := by
  induction h with
  | nil => rfl
  | cons hcalls _ ih => rw [List.flatten_cons, hcalls.eq_nil, ih, List.append_nil]

/-- A `step` with a model that leads to no provider fails at once. -/
theorem Step.execute_of_unresolved {setting : Setting ω} {all : List (Provider ω)}
    (hproviders : setting.providers = .ofList all) (hmode : setting.mode = .execution) {step : Step}
    (hkind : step.isPrompt = true) {identifier : String}
    (hselects : step.Selects setting.configuration.run identifier)
    (hunresolved : Unresolved all identifier) (state : Variables) (world : ω) :
    (step.execute setting state world).1 = ([], .error (.unsupportedModel identifier)) := by
  have hresolve := resolve_eq_error_iff.2 ⟨hunresolved, rfl⟩
  rw [← hproviders, Step.selects_iff.1 hselects] at hresolve
  simp only [execute, respond, Generation.respond, hkind, hmode, hresolve, if_true, bind,
    StateT.bind]
  rw [Step.selects_iff.1 hselects]
  rfl

/-- Where a journey comes to a step with a model that leads to no provider, it ends. -/
theorem Journey.walk_of_unresolved {setting : Setting ω} {all : List (Provider ω)}
    (hproviders : setting.providers = .ofList all) (hmode : setting.mode = .execution)
    {remaining : Nat} {position : Workflow.Position steps} {state : Variables} {world : ω}
    {earlier : List (Visit steps)} {visit : Visit steps} {later : List (Visit steps)}
    (hvisits : (walk setting remaining position state world).1.visits = earlier ++ visit :: later)
    (hkind : (steps.step visit.step).isPrompt = true) {identifier : String}
    (hselects : (steps.step visit.step).Selects setting.configuration.run identifier)
    (hunresolved : Unresolved all identifier) :
    later = [] ∧ visit.events = [(steps.step visit.step).announcement] ∧
      visit.result = .error (.unsupportedModel identifier) ∧
      (walk setting remaining position state world).1.failure =
        some ⟨.unsupportedModel identifier, (steps.step visit.step).name⟩ := by
  have hmem : visit ∈ (walk setting remaining position state world).1.visits := by
    rw [hvisits]
    exact List.mem_append_right _ List.mem_cons_self
  obtain ⟨state', world', hsignals, hresult⟩ := exists_execute_of_mem setting _ _ _ _ visit hmem
  rw [Step.execute_of_unresolved hproviders hmode hkind hselects hunresolved] at hsignals hresult
  -- A visit that fails is the last one.
  obtain ⟨hlast, hfailure⟩ :=
    (walks_walk setting remaining position state world).failure_of_append hvisits hresult
  exact ⟨hlast, by rw [Visit.events, hsignals]; rfl, hresult, hfailure⟩

variable (configuration : Configuration) (mode : RunMode) (delivery : Delivery)
  (all : List (Provider ω))

/-- The log of a journey gets the calls of its visits, and otherwise the journey is the one without
a log. -/
theorem Journey.walk_logged (remaining : Nat) (position : Workflow.Position steps)
    (state : Variables) (world : ω) (log : List (ProviderCall ω)) :
    let setting : Setting ω := ⟨configuration, .ofList all, mode, delivery⟩
    ∃ blocks, List.Forall₂
        (fun visit => (steps.step visit.step).Calls configuration mode delivery all)
        (walk setting remaining position state world).1.visits blocks ∧
      walk ⟨configuration, .ofList (all.map Provider.logged), mode, delivery⟩ remaining position
          state (world, log) =
        ((walk setting remaining position state world).1,
          (walk setting remaining position state world).2, log ++ blocks.flatten) := by
  -- The log is generalized, since the rest of a journey starts with the calls of its first visit.
  induction remaining generalizing position state world log with
  | zero =>
    refine ⟨[], .nil, ?_⟩
    rw [List.flatten_nil, List.append_nil]
    rfl
  | succ remaining ih =>
    obtain ⟨calls, hcalls, hexecute⟩ :=
      (steps.step position.step).execute_logged configuration mode delivery all
    simp only [walk, bind, StateT.bind, hexecute]
    obtain ⟨⟨signals, result⟩, after⟩ := (steps.step position.step).execute
      ⟨configuration, .ofList all, mode, delivery⟩ state world
    have hsingle : log ++ calls = log ++ [calls].flatten := by rw [List.flatten_singleton]
    cases result with
    | error e => exact ⟨[calls], .cons hcalls .nil, by rw [← hsingle]; rfl⟩
    | ok state' =>
      cases steps.next position with
      | finish => exact ⟨[calls], .cons hcalls .nil, by rw [← hsingle]; rfl⟩
      | missing target => exact ⟨[calls], .cons hcalls .nil, by rw [← hsingle]; rfl⟩
      | go position' =>
        obtain ⟨blocks, hblocks, hrest⟩ := ih position' state' after (log ++ calls)
        refine ⟨calls :: blocks, .cons hcalls hblocks, ?_⟩
        simp only [bind, StateT.bind, hrest, List.flatten_cons, List.append_assoc]
        rfl

/-- The log of a run consists of the calls of its visits, and otherwise the run is the one without a
log. -/
theorem Workflow.run_logged (steps : Workflow) (state : Variables) (world : ω) :
    let setting : Setting ω := ⟨configuration, .ofList all, mode, delivery⟩
    ∃ blocks, List.Forall₂
        (fun visit => (steps.step visit.step).Calls configuration mode delivery all)
        (steps.visits setting state world) blocks ∧
      steps.run ⟨configuration, .ofList (all.map Provider.logged), mode, delivery⟩ state
          (world, []) =
        ((steps.run setting state world).1, (steps.run setting state world).2, blocks.flatten) := by
  intro setting
  cases hstart : steps.firstPrompt? with
  | none =>
    refine ⟨[], ?_, ?_⟩
    · rw [visits_of_none setting state world hstart]
      exact .nil
    · simp only [run, journey?, hstart]
      rfl
  | some start =>
    -- The walk starts with an empty log, so what it adds is the whole log.
    obtain ⟨blocks, hblocks, hwalk⟩ := Journey.walk_logged configuration mode delivery all
      configuration.run.maxSteps ⟨start, none⟩ state world []
    refine ⟨blocks, ?_, ?_⟩
    · rw [visits_of_some setting state world hstart]
      exact hblocks
    · simp only [run, journey?, hstart, bind, StateT.bind, Functor.map, StateT.map, hwalk,
        List.nil_append]
      rfl

/-- Every run calls providers once where a call is due and nowhere else, whatever providers `all`
have been registered, and the notes that these make of it do not disturb the run. -/
theorem Workflow.run_calls (steps : Workflow) (state : Variables) (world : ω) :
    let setting : Setting ω := ⟨configuration, .ofList all, mode, delivery⟩
    let ran := steps.run setting state world
    ∃ log, steps.run ⟨configuration, .ofList (all.map Provider.logged), mode, delivery⟩ state
        (world, []) = (ran.1, ran.2, log) ∧
      ran.1.CallsOnce configuration mode delivery all (steps.visits setting state world) log := by
  intro setting ran
  obtain ⟨blocks, hblocks, hrun⟩ := steps.run_logged configuration mode delivery all state world
  refine ⟨blocks.flatten, hrun, ⟨blocks, hblocks, rfl⟩, ?_, ?_⟩
  · rintro rfl
    exact Step.flatten_eq_nil_of_calls hblocks
  · intro hmode earlier visit later hvisits hkind identifier hselects hunresolved
    cases hstart : steps.firstPrompt? with
    | none =>
      rw [visits_of_none setting state world hstart] at hvisits
      simp at hvisits
    | some start =>
      rw [visits_of_some setting state world hstart] at hvisits
      -- A step whose model leads to no provider is the last one of its walk, and its error is the
      -- only one.
      obtain ⟨hlast, hevents, hresult, hfailure⟩ :=
        Journey.walk_of_unresolved rfl hmode hvisits hkind hselects hunresolved
      refine ⟨hlast, hevents, hresult, ?_⟩
      show (steps.run setting state world).1.events.filter (·.kind = .stepError) = _
      rw [run_eq_of_some setting state world (journey?_of_some setting state world hstart),
        RunRecord.events, Journey.filterMap_event?_signals, List.filter_append,
        (Journey.walks_walk setting _ _ state world).filter_stepError, hfailure]
      rfl

/-- The provider of `roundabout` is called each time that the first step is executed. -/
example :
    ((roundabout.run ⟨echoing.configuration, .ofList ([echo].map Provider.logged), .execution,
      .stream⟩ [] (0, [])).2.2.map fun call => (call.provider.name, call.request.model)) =
      [("echo", "any"), ("echo", "any")] := by
  decide +kernel

end Runs

end Promptbook
