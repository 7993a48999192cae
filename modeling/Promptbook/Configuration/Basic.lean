import Promptbook.Data.Record
import Promptbook.Data.Whole
import Promptbook.Decimal.Layout
import Promptbook.Error
import Promptbook.Text.Space

/-!
# Configuration

The settings of runs. A configuration is read from a value; how texts and numbers are taken from the
parts of that value differs between the sources of configurations, so it is a parameter.
-/

namespace Promptbook

/-- Settings of every run. -/
structure RunSettings where
  /-- The model of steps that name none. -/
  model : String
  /-- The temperature of steps that state none. -/
  temperature : Float
  /-- How many steps a run may take. -/
  maxSteps : Nat
  deriving DecidableEq, Inhabited

/-- Settings of runs that generate no text. -/
structure SimulationSettings where
  /-- The pause behind every piece of text, in milliseconds. -/
  tokenDelay : Nat
  /-- The pause behind every text, in milliseconds. -/
  latency : Nat
  /-- The text of steps that state none. -/
  placeholder : String
  deriving DecidableEq, Inhabited

/-- All settings. -/
structure Configuration where
  /-- Settings of every run. -/
  run : RunSettings
  /-- Settings of runs that generate no text. -/
  simulation : SimulationSettings
  deriving DecidableEq, Inhabited

/-- How texts and numbers are taken from values. -/
structure ScalarReading where
  /-- The text of a value. -/
  text? : Value → Option String
  /-- The number that a value states. -/
  number? : Value → Option Float
  /-- The whole number that a value states, without a sign, that fits a word. -/
  count? : Value → Option Nat
  /-- The members of a record with these names. -/
  members? : List String → Value → Option (List (Option Value))

namespace ScalarReading

/-- Texts and numbers stand for themselves. -/
def strict : ScalarReading :=
  ⟨Value.string?, Value.double?, Value.below? Whole.words, Value.optionalMembers?⟩

end ScalarReading

/-- What a member states, or `default` if it is missing. -/
def memberOr {α : Type} (read? : Value → Option α) (default : α) : Option Value → Option α
  | none => some default
  | some v => read? v

namespace RunSettings

/-- The settings if nothing is said. -/
def standard : RunSettings := ⟨"openai/gpt-4o", 0.7, 256⟩

/-- The settings that `v` describes; what it leaves out is as standard. -/
def read? (reading : ScalarReading) (v : Value) : Option RunSettings := do
  match ← reading.members? ["default_model", "default_temperature", "max_steps"] v with
  | [model, temperature, maxSteps] =>
    return {
      model := ← memberOr reading.text? standard.model model
      temperature := ← memberOr reading.number? standard.temperature temperature
      maxSteps := ← memberOr reading.count? standard.maxSteps maxSteps }
  | _ => none

/-- Settings as a value. -/
def toValue (s : RunSettings) : Value :=
  .object [("default_model", .string s.model), ("default_temperature", .double s.temperature),
    ("max_steps", .int s.maxSteps)]

end RunSettings

namespace SimulationSettings

/-- The settings if nothing is said. -/
def standard : SimulationSettings :=
  ⟨5, 100, "[Simulation Mode: LLM response would be generated here]"⟩

/-- The settings that `v` describes; what it leaves out is as standard. -/
def read? (reading : ScalarReading) (v : Value) : Option SimulationSettings := do
  match ← reading.members? ["token_delay_ms", "latency_ms", "placeholder"] v with
  | [tokenDelay, latency, placeholder] =>
    return {
      tokenDelay := ← memberOr reading.count? standard.tokenDelay tokenDelay
      latency := ← memberOr reading.count? standard.latency latency
      placeholder := ← memberOr reading.text? standard.placeholder placeholder }
  | _ => none

/-- Settings as a value. -/
def toValue (s : SimulationSettings) : Value :=
  .object [("latency_ms", .int s.latency), ("placeholder", .string s.placeholder),
    ("token_delay_ms", .int s.tokenDelay)]

end SimulationSettings

namespace Configuration

/-- The configuration if nothing is said. -/
def standard : Configuration := ⟨.standard, .standard⟩

/-- The standard configuration without pauses. -/
def withoutPauses : Configuration :=
  ⟨.standard, { SimulationSettings.standard with tokenDelay := 0, latency := 0 }⟩

/-- The temperature of a generation of which nothing is said. -/
def standardTemperature : Float := RunSettings.standard.temperature

/-- The configuration that `v` describes; what it leaves out is as standard. -/
def read? (reading : ScalarReading) (v : Value) : Option Configuration := do
  match ← reading.members? ["runtime", "simulation"] v with
  | [run, simulation] =>
    return {
      run := ← memberOr (RunSettings.read? reading) .standard run
      simulation := ← memberOr (SimulationSettings.read? reading) .standard simulation }
  | _ => none

/-- The configuration that a value describes. -/
def ofValue? : Value → Option Configuration :=
  read? .strict

/-- A configuration as a value. -/
def toValue (c : Configuration) : Value :=
  .object [("runtime", c.run.toValue), ("simulation", c.simulation.toValue)]

/-- Whether the temperature `x` is allowed: it is neither negative nor without bounds. -/
def allowsTemperature (x : Float) : Bool :=
  x.isFinite && !(x < 0)

/-- The configuration `c`, if its settings are allowed. -/
def validate (c : Configuration) : Except Error Configuration :=
  if c.run.maxSteps = 0 then .error (.configuration "runtime.max_steps must be at least 1")
  else if !allowsTemperature c.run.temperature then
    .error (.configuration ("runtime.default_temperature must be a non-negative number, got "
      ++ Decimal.plainLayout.write c.run.temperature))
  else if Text.isBlank c.run.model.toList then
    .error (.configuration "runtime.default_model must not be empty")
  else .ok c

/-- A configuration `c` is allowed exactly if it lets runs take a step, its temperature is allowed
and its model has a name. -/
theorem validate_eq_ok {c d : Configuration} :
    c.validate = .ok d ↔ c = d ∧ 0 < c.run.maxSteps ∧ allowsTemperature c.run.temperature = true ∧
      Text.isBlank c.run.model.toList = false := by
  unfold validate
  split
  · rename_i h
    simp [h]
  · rename_i h
    split
    · rename_i h'
      simp at h'
      simp [h']
    · rename_i h'
      split
      · rename_i h''
        simp [h'']
      · rename_i h''
        have : 0 < c.run.maxSteps := Nat.pos_of_ne_zero h
        simp_all

end Configuration

end Promptbook
