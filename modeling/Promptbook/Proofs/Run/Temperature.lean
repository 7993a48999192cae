import Promptbook.Proofs.Run.Calls

/-!
# Temperatures of Calls

A configuration is accepted only with a temperature that is finite and not negative. The number that
a step puts out in place of it is passed on as it is. So a call has a valid temperature unless its
step states an invalid number, which it can do as a number or in words.

## Main definitions

* `IsTemperature`: a number is finite and not negative.
* `Step.States`: the number that a step states as its temperature.
* `Step.Tempers`: a call has the temperature that its step calls for.

## Main results

* `Step.Calls.tempers`: the calls that the execution of a step makes have the temperature that the
  step calls for.
* `Workflow.run_temperatures`: which calls of a run have valid temperatures.
-/

namespace Promptbook

variable {ω : Type}

/-- The number `x` is finite and not negative. -/
def IsTemperature (x : Float) : Prop :=
  x.isFinite = true ∧ ¬ x < 0

instance : DecidablePred IsTemperature := fun x =>
  inferInstanceAs (Decidable (x.isFinite = true ∧ ¬ x < 0))

/-- The temperatures that are allowed in configurations are the valid ones. -/
theorem Configuration.allowsTemperature_iff {x : Float} :
    allowsTemperature x = true ↔ IsTemperature x := by
  simp [allowsTemperature, IsTemperature]

/-- The temperature of a configuration that is accepted is valid. -/
theorem Configuration.isTemperature_of_validate {c d : Configuration} (h : c.validate = .ok d) :
    IsTemperature c.run.temperature :=
  allowsTemperature_iff.1 (validate_eq_ok.1 h).2.2.1

/-- The number that `step` states as its temperature. -/
inductive Step.States (step : Step) : Float → Prop where
  /-- The step puts out a whole number `n`. -/
  | whole {n : Int} (houtput : step.output? Reserved.temperature = some (.int n)) :
    States step (Float.ofInt n)
  /-- The step puts out another number `x`. -/
  | number {x : Float} (houtput : step.output? Reserved.temperature = some (.double x)) :
    States step x
  /-- The step puts out a `text` that spells the number `x`. -/
  | spelled {text : String} {x : Float}
    (houtput : step.output? Reserved.temperature = some (.string text))
    (hspelled : Decimal.read? (Text.trim text) = some x) : States step x

/-- The `call` has the temperature that `step` calls for: the number that the step states, and else
the one of the settings. -/
structure Step.Tempers (settings : RunSettings) (step : Step) (call : ProviderCall ω) : Prop where
  /-- If the step states a number, the call has it. -/
  stated : ∀ x, step.States x → call.request.temperature = x
  /-- If the step states no number, the call has that of the settings. -/
  unstated : (∀ x, ¬ step.States x) → call.request.temperature = settings.temperature

namespace Step

variable {settings : RunSettings} {step : Step} {x : Float}

/-- A step states `x` exactly if `x` is what is looked up among its outputs. -/
theorem states_iff :
    step.States x ↔
      (step.output? Reserved.temperature).bind Generation.statedNumber? = some x := by
  constructor
  · intro h
    -- A whole number, any other one, or a text that spells one.
    cases h with
    | whole houtput => rw [houtput]; rfl
    | number houtput => rw [houtput]; rfl
    | spelled houtput hspelled => rw [houtput, Option.bind_some, Generation.statedNumber?, hspelled]
  · intro h
    obtain ⟨value, houtput, hvalue⟩ := Option.bind_eq_some_iff.1 h
    cases value with
    | int n =>
      cases hvalue
      exact .whole houtput
    | double x =>
      cases hvalue
      exact .number houtput
    | string text =>
      rw [Generation.statedNumber?] at hvalue
      exact .spelled houtput hvalue
    | _ => cases hvalue

/-- If a step states `x`, its request is made with `x`. -/
theorem temperatureOf_of_states (h : step.States x) :
    Generation.temperatureOf settings step = x := by
  rw [Generation.temperatureOf, states_iff.1 h, Option.getD_some]

theorem temperatureOf_of_not_states (h : ∀ x, ¬ step.States x) :
    Generation.temperatureOf settings step = settings.temperature := by
  have hnone : (step.output? Reserved.temperature).bind Generation.statedNumber? = none :=
    Option.eq_none_iff_forall_ne_some.2 fun x hx => h x (states_iff.2 hx)
  rw [Generation.temperatureOf, hnone, Option.getD_none]

/-- The calls that the execution of a step makes have the temperature that the step calls for. -/
theorem Calls.tempers {configuration : Configuration} {mode : RunMode} {delivery : Delivery}
    {all : List (Provider ω)} {calls : List (ProviderCall ω)}
    (h : step.Calls configuration mode delivery all calls) :
    ∀ call ∈ calls, step.Tempers configuration.run call := by
  cases h with
  | simulated | decided | unresolved => exact List.forall_mem_nil _
  | called =>
    refine List.forall_mem_singleton.2 ⟨fun x hx => ?_, fun hnone => ?_⟩
    · exact temperatureOf_of_states hx
    · exact temperatureOf_of_not_states hnone

/-- Under settings with a valid temperature, a call has a valid one exactly if its step states no
invalid number. -/
theorem Tempers.isTemperature_iff {call : ProviderCall ω} (h : step.Tempers settings call)
    (hsettings : IsTemperature settings.temperature) :
    IsTemperature call.request.temperature ↔ ∀ x, step.States x → IsTemperature x := by
  constructor
  · intro hcall x hx
    rwa [h.stated x hx] at hcall
  · intro hstated
    by_cases hnumber : ∃ x, step.States x
    · obtain ⟨x, hx⟩ := hnumber
      rw [h.stated x hx]
      exact hstated x hx
    · rwa [h.unstated fun x hx => hnumber ⟨x, hx⟩]

end Step

/-- In every run that calls providers under a configuration that is accepted, each call has the
temperature that its step calls for. It is valid exactly if the step states no invalid number, so
that all temperatures are valid if no step states one. -/
theorem Workflow.run_temperatures (configuration : Configuration)
    (hvalid : configuration.validate = .ok configuration) (delivery : Delivery)
    (all : List (Provider ω)) (steps : Workflow) (state : Variables) (world : ω) :
    let setting : Setting ω := ⟨configuration, .ofList all, .execution, delivery⟩
    let ran := steps.run setting state world
    ∃ blocks : List (List (ProviderCall ω)),
      steps.run ⟨configuration, .ofList (all.map Provider.logged), .execution, delivery⟩ state
          (world, []) = (ran.1, ran.2, blocks.flatten) ∧
      List.Forall₂ (fun visit calls => ∀ call ∈ calls,
          (steps.step visit.step).Tempers configuration.run call ∧
          (IsTemperature call.request.temperature ↔
            ∀ x, (steps.step visit.step).States x → IsTemperature x))
        (steps.visits setting state world) blocks ∧
      ((∀ step ∈ steps, ∀ x, step.States x → IsTemperature x) →
        ∀ call ∈ blocks.flatten, IsTemperature call.request.temperature) := by
  intro setting ran
  obtain ⟨blocks, hblocks, hrun⟩ :=
    steps.run_logged configuration .execution delivery all state world
  have hsettings := Configuration.isTemperature_of_validate hvalid
  refine ⟨blocks, hrun, hblocks.imp fun visit calls hcalls call hcall => ?_, ?_⟩
  · have htempers := hcalls.tempers call hcall
    exact ⟨htempers, htempers.isTemperature_iff hsettings⟩
  · intro hstated call hcall
    obtain ⟨calls, hmem, hcall⟩ := List.mem_flatten.1 hcall
    -- The calls are those of the visit at the same place, and its step is one of the workflow.
    obtain ⟨i, hi, rfl⟩ := List.mem_iff_getElem.1 hmem
    have hcalls := hblocks.get (hblocks.length_eq ▸ hi) hi
    refine ((hcalls.tempers call hcall).isTemperature_iff hsettings).2 ?_
    exact hstated _ (steps.step_mem _)

/-- A workflow of one step, which puts out `temperature`. -/
def Workflow.tempered (temperature : Value) : Workflow :=
  [⟨"Ask", .prompt, "", [], [(Reserved.temperature, temperature)], "Who?", none⟩]

/-- A number that a text spells is passed on, and valid if it is. -/
theorem Workflow.run_temperatures_spelled :
    let configuration := echoing.configuration
    configuration.validate = .ok configuration ∧
      ∀ call ∈ ((tempered (.string " 0.2 ")).run
          ⟨configuration, .ofList ([echo].map Provider.logged), .execution, .blocking⟩ []
            (0, [])).2.2, IsTemperature call.request.temperature := by
  intro configuration
  have hvalid : configuration.validate = .ok configuration := by decide +kernel
  have hspelled : (Generation.statedNumber? (.string " 0.2 ")).all (IsTemperature ·) = true := by
    decide +kernel
  obtain ⟨blocks, hrun, -, hstated⟩ := run_temperatures configuration hvalid .blocking [echo]
    (tempered (.string " 0.2 ")) [] 0
  refine ⟨hvalid, ?_⟩
  rw [hrun]
  refine hstated fun step hstep x hx => ?_
  obtain rfl := List.mem_singleton.1 hstep
  exact of_decide_eq_true ((Option.all_eq_true _ _).1 hspelled x (Step.states_iff.1 hx))

/-- A negative number is passed on as well, and so is what is no number at all. -/
theorem Workflow.run_temperatures_invalid :
    let configuration := echoing.configuration
    configuration.validate = .ok configuration ∧
      ∀ text ∈ ["-1", "NaN"],
        ∃ call ∈ ((tempered (.string text)).run
            ⟨configuration, .ofList ([echo].map Provider.logged), .execution, .blocking⟩ []
              (0, [])).2.2, ¬ IsTemperature call.request.temperature := by
  decide +kernel

end Promptbook
