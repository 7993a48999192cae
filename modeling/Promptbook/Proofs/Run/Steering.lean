import Promptbook.Proofs.Run.Limit
import Mathlib.Data.List.Forall2

/-!
# What Steers a Run

Of what directives put out, a run reads a few variables only, and which ones depends on the kind of
the step. Two workflows that agree on these, on the names, the instructions and the inputs of their
steps have the same run.

## Main definitions

* `Step.SteersLike`: two steps agree on what a run reads of them.
* `Workflow.Position.cast`, `Visit.cast`, `Journey.cast`: the same position, visit and journey in
  another workflow with as many steps.

## Main results

* `Step.SteersLike.fst_execute`: steps that steer alike are executed alike.
* `Workflow.next_cast`: a run goes on to the same place in both workflows.
* `Journey.walk_cast`: journeys through both workflows are the same. This is the induction over a
  run.
* `Workflow.run_steered`: runs of workflows that steer alike are the same.
-/

namespace Promptbook

variable {ω ω' : Type}

/-- The steps `a` and `b` agree on what a run reads of them. From a deciding step it reads where to
go, from a step that generates text what it needs to obtain the text. -/
structure Step.SteersLike (mode : RunMode) (a b : Step) : Prop where
  /-- They have the same name. -/
  name : a.name = b.name
  /-- They are of the same kind. -/
  instruction : a.instruction = b.instruction
  /-- They have the same inputs. -/
  inputs : a.inputs = b.inputs
  /-- If they decide, they name the same step to go to. -/
  goto : a.isPrompt = false → a.output? Reserved.goto = b.output? Reserved.goto
  /-- If they decide, they say the same about the end of the run. -/
  done : a.isPrompt = false → a.output? Reserved.done = b.output? Reserved.done
  /-- If their texts are made up, they state the same text. -/
  result : mode = .simulation → a.isPrompt = true →
    a.output? Reserved.result = b.output? Reserved.result
  /-- If their texts are generated, they ask for the same model. -/
  model : mode = .execution → a.isPrompt = true →
    a.output? Reserved.model = b.output? Reserved.model
  /-- If their texts are generated, they ask for the same temperature. -/
  temperature : mode = .execution → a.isPrompt = true →
    a.output? Reserved.temperature = b.output? Reserved.temperature
  /-- If their texts are generated, they have the same prompt. -/
  prompt : mode = .execution → a.isPrompt = true → a.prompt = b.prompt

namespace Step.SteersLike

variable {mode : RunMode} {a b : Step} (h : a.SteersLike mode b)

include h

/-- Steps that steer alike are both deciding steps, or neither is. -/
theorem isPrompt_eq : a.isPrompt = b.isPrompt := by
  rw [isPrompt, isPrompt, h.instruction]

/-- Steps that steer alike say the same about the course. -/
theorem direction_eq : a.direction = b.direction := by
  cases hkind : a.isPrompt with
  | true => rw [direction_of_isPrompt hkind, direction_of_isPrompt (h.isPrompt_eq ▸ hkind)]
  | false => simp only [direction, outputText?, ← h.isPrompt_eq, hkind, h.goto hkind, h.done hkind]

/-- Steps that steer alike are announced in the same way. -/
theorem announcement_eq : a.announcement = b.announcement := by
  rw [announcement, announcement, h.isPrompt_eq, h.name]

end Step.SteersLike

section Executions

variable {mode : RunMode} {a b : Step}

/-- The made-up texts of steps that steer alike are the same, whatever the providers. -/
theorem Step.SteersLike.fst_respond_simulation (h : a.SteersLike .simulation b)
    (hkind : a.isPrompt = true) (configuration : Configuration) (delivery : Delivery)
    (providers : Providers ω) (providers' : Providers ω') (world : ω) (world' : ω') :
    (a.respond ⟨configuration, providers, .simulation, delivery⟩ world).1 =
      (b.respond ⟨configuration, providers', .simulation, delivery⟩ world').1 := by
  have hstated : Simulation.statedText? a = Simulation.statedText? b := by
    simp only [Simulation.statedText?, outputText?, h.result rfl hkind]
  show ((Simulation.respond configuration.simulation delivery a).1, Except.ok _) =
    ((Simulation.respond configuration.simulation delivery b).1, Except.ok _)
  simp only [Simulation.respond, Simulation.tokenSignals, Simulation.text, hstated]

/-- The generated texts of steps that steer alike are obtained in the same way. -/
theorem Step.SteersLike.respond_execution (h : a.SteersLike .execution b)
    (hkind : a.isPrompt = true) {setting : Setting ω} (hmode : setting.mode = .execution) :
    a.respond setting = b.respond setting := by
  simp only [respond, hmode, Generation.respond, Generation.modelOf, Generation.temperatureOf,
    outputText?, h.model rfl hkind, h.temperature rfl hkind, h.prompt rfl hkind]

/-- Steps that steer alike are executed alike if their texts are obtained in the same way. -/
theorem Step.SteersLike.fst_execute (h : a.SteersLike mode b) {setting : Setting ω}
    {setting' : Setting ω'} {world : ω} {world' : ω'}
    (hrespond : a.isPrompt = true → (a.respond setting world).1 = (b.respond setting' world').1)
    (state : Variables) :
    (a.execute setting state world).1 = (b.execute setting' state world').1 :=
  Step.fst_execute_congr h.isPrompt_eq h.name h.inputs hrespond state

end Executions

section Cast

variable {steps steps' : Workflow} (hlength : steps.length = steps'.length)

/-- The same position in a workflow with as many steps. -/
def Workflow.Position.cast (position : Position steps) : Position steps' :=
  ⟨position.step.cast hlength, position.origin.map (Fin.cast hlength)⟩

/-- The same continuation in a workflow with as many steps. -/
def Workflow.Continuation.cast : Continuation steps → Continuation steps'
  | .go position => .go (position.cast hlength)
  | .finish => .finish
  | .missing target => .missing target

/-- The same visit in a workflow with as many steps. -/
def Visit.cast (visit : Visit steps) : Visit steps' :=
  ⟨visit.step.cast hlength, visit.signals, visit.result⟩

/-- The same journey in a workflow with as many steps. -/
def Journey.cast (journey : Journey steps) : Journey steps' :=
  ⟨journey.visits.map (Visit.cast hlength), journey.failure, journey.state⟩

/-- In a workflow with as many steps, `journey` sends the same signals. -/
theorem Journey.signals_cast (journey : Journey steps) :
    (journey.cast hlength).signals = journey.signals := by
  simp only [signals, failureSignals, cast, List.flatMap_map]
  rfl

/-- The first number below `n` with the property `p` is the first one below `m` if `n` and `m` are
the same. -/
theorem find?_finRange_cast {n m : Nat} (h : n = m) (p : Fin m → Bool) :
    ((List.finRange n).find? fun i => p (i.cast h)).map (Fin.cast h) =
      (List.finRange m).find? p := by
  subst h
  simp

end Cast

namespace Workflow

variable {mode : RunMode} {steps steps' : Workflow} (hlength : steps.length = steps'.length)
  (hsteer : ∀ i, (steps.step i).SteersLike mode (steps'.step (i.cast hlength)))

/-- The first step with the property `p` is at the same place in both workflows if `p` and `p'` hold
at the same places. -/
theorem first?_cast {p : Fin steps.length → Bool} {p' : Fin steps'.length → Bool}
    (h : ∀ i, p i = p' (i.cast hlength)) :
    (steps.first? p).map (Fin.cast hlength) = steps'.first? p' := by
  rw [first?, funext h]
  exact find?_finRange_cast hlength p'

include hsteer

/-- Both workflows start at the same place. -/
theorem firstPrompt?_cast : steps.firstPrompt?.map (Fin.cast hlength) = steps'.firstPrompt? :=
  first?_cast hlength fun i => (hsteer i).isPrompt_eq

/-- A `name` finds a step at the same place in both workflows. -/
theorem named?_cast (name : String) :
    (steps.named? name).map (Fin.cast hlength) = steps'.named? name :=
  first?_cast hlength fun i => by rw [(hsteer i).name]

/-- A `name` finds a deciding step at the same place in both workflows. -/
theorem afterNamed?_cast (name : String) :
    (steps.afterNamed? name).map (Fin.cast hlength) = steps'.afterNamed? name :=
  first?_cast hlength fun i => by rw [(hsteer i).isPrompt_eq, (hsteer i).name]

/-- The next step behind `place` that generates text is at the same place in both workflows. -/
theorem promptBehind?_cast (place : Fin steps.length) :
    (steps.promptBehind? place).map (Fin.cast hlength) =
      steps'.promptBehind? (place.cast hlength) :=
  first?_cast hlength fun i => by rw [(hsteer i).isPrompt_eq]; rfl

/-- Going on leads to the same place in both workflows. -/
theorem onward_cast (position : Position steps) :
    (steps.onward position).cast hlength = steps'.onward (position.cast hlength) := by
  have hplace : (position.cast hlength).origin.getD (position.cast hlength).step =
      (position.origin.getD position.step).cast hlength := by
    obtain ⟨i, origin⟩ := position
    cases origin <;> rfl
  rw [onward, onward, hplace, ← promptBehind?_cast hlength hsteer]
  cases steps.promptBehind? (position.origin.getD position.step) <;> rfl

/-- A complete step is followed by the same in both workflows. -/
theorem next_cast (position : Position steps) :
    (steps.next position).cast hlength = steps'.next (position.cast hlength) := by
  have hhere := hsteer position.step
  have hstep : steps'.step (position.cast hlength).step =
      steps'.step (position.step.cast hlength) := rfl
  simp only [next, hstep, ← hhere.direction_eq, ← hhere.isPrompt_eq, ← hhere.name]
  cases (steps.step position.step).direction with
  | stop => rfl
  | jump target =>
    simp only [← named?_cast hlength hsteer target]
    cases steps.named? target <;> rfl
  | onward =>
    cases (steps.step position.step).isPrompt with
    | false => exact onward_cast hlength hsteer position
    | true =>
      simp only [if_true, ← afterNamed?_cast hlength hsteer (steps.step position.step).name]
      cases steps.afterNamed? (steps.step position.step).name with
      | none => exact onward_cast hlength hsteer position
      | some after => rfl

end Workflow

section Runs

variable {mode : RunMode} {steps steps' : Workflow} (hlength : steps.length = steps'.length)
  (hsteer : ∀ i, (steps.step i).SteersLike mode (steps'.step (i.cast hlength)))
  {setting : Setting ω} {setting' : Setting ω'}
  (hconfiguration : setting.configuration = setting'.configuration)
  (hexecute : ∀ i state world world', ((steps.step i).execute setting state world).1 =
    ((steps'.step (i.cast hlength)).execute setting' state world').1)

include hsteer hconfiguration hexecute

/-- In both workflows, journeys from the same position and the same state on are the same, whatever
the worlds. -/
theorem Journey.walk_cast (remaining : Nat) (position : Workflow.Position steps)
    (state : Variables) (world : ω) (world' : ω') :
    (walk setting remaining position state world).1.cast hlength =
      (walk setting' remaining (position.cast hlength) state world').1 := by
  have hstep : steps'.step (position.cast hlength).step =
      steps'.step (position.step.cast hlength) := rfl
  -- The worlds drift apart with the first execution, only the state stays the same.
  induction remaining generalizing position state world world' with
  | zero =>
    simp only [walk, hconfiguration, (hsteer position.step).name]
    rfl
  | succ remaining ih =>
    have hsame := hexecute position.step state world world'
    have hnext := Workflow.next_cast hlength hsteer position
    have hannounced := (hsteer position.step).announcement_eq
    have hname := (hsteer position.step).name
    simp only [walk, bind, StateT.bind, hstep, hannounced, hname, ← hnext]
    generalize (steps.step position.step).execute setting state world = execution at hsame ⊢
    generalize (steps'.step (position.step.cast hlength)).execute setting' state world' =
      execution' at hsame ⊢
    obtain ⟨⟨signals, result⟩, after⟩ := execution
    obtain ⟨outcome', after'⟩ := execution'
    cases hsame
    cases result with
    | error e => rfl
    | ok state' =>
      cases steps.next position with
      | finish => rfl
      | missing target => rfl
      | go position' => exact congrArg (Journey.after _) (ih position' state' after after' rfl)

/-- Runs of both workflows leave the same behind. -/
theorem Workflow.run_cast (state : Variables) (world : ω) (world' : ω') :
    (steps.run setting state world).1 = (steps'.run setting' state world').1 := by
  have hstart := Workflow.firstPrompt?_cast hlength hsteer
  cases hfirst : steps.firstPrompt? with
  | none =>
    rw [hfirst] at hstart
    rw [run_eq_of_none _ state world (journey?_of_none _ state world hfirst),
      run_eq_of_none _ state world' (journey?_of_none _ state world' hstart.symm)]
  | some start =>
    rw [hfirst] at hstart
    rw [run_eq_of_some _ state world (journey?_of_some _ state world hfirst),
      run_eq_of_some _ state world' (journey?_of_some _ state world' hstart.symm),
      ← hconfiguration]
    have hwalk := Journey.walk_cast hlength hsteer hconfiguration hexecute
      setting.configuration.run.maxSteps ⟨start, none⟩ state world world'
    rw [← Journey.signals_cast hlength, hwalk]
    exact congrArg (RunRecord.mk _) (congrArg Journey.state hwalk)

end Runs

/-- Only what directives put out about the course and about obtaining text steers a run. If the
steps of two workflows steer alike in simulation, the runs are the same, whatever else differs,
prompts and providers included. If they steer alike in execution and what the providers answer is a
function of the request, the runs are the same in whatever worlds. -/
theorem Workflow.run_steered (configuration : Configuration) (delivery : Delivery)
    (steps steps' : Workflow) (state : Variables) :
    (List.Forall₂ (Step.SteersLike .simulation) steps steps' →
      ∀ (providers : Providers ω) (providers' : Providers ω') (world : ω) (world' : ω'),
        (steps.run ⟨configuration, providers, .simulation, delivery⟩ state world).1 =
          (steps'.run ⟨configuration, providers', .simulation, delivery⟩ state world').1) ∧
    (List.Forall₂ (Step.SteersLike .execution) steps steps' →
      ∀ providers : Providers ω,
        Setting.Functional ⟨configuration, providers, .execution, delivery⟩ →
        ∀ world world' : ω,
          (steps.run ⟨configuration, providers, .execution, delivery⟩ state world).1 =
            (steps'.run ⟨configuration, providers, .execution, delivery⟩ state world').1) := by
  constructor
  · intro hsteer providers providers' world world'
    have hhere := fun i : Fin steps.length =>
      hsteer.get i.isLt (hsteer.length_eq ▸ i.isLt)
    refine run_cast hsteer.length_eq hhere (by rfl) (fun i state _ _ => ?_) state world world'
    refine (hhere i).fst_execute (fun hkind => ?_) state
    exact (hhere i).fst_respond_simulation hkind configuration delivery _ _ _ _
  · intro hsteer providers hfunctional world world'
    have hhere := fun i : Fin steps.length =>
      hsteer.get i.isLt (hsteer.length_eq ▸ i.isLt)
    refine run_cast hsteer.length_eq hhere rfl (fun i state here there => ?_) state world world'
    refine (hhere i).fst_execute (fun hkind => ?_) state
    -- First the worlds are made the same, then the steps.
    rw [hfunctional.fst_respond _ here there, (hhere i).respond_execution hkind rfl]

/-- The steps of `roundabout` with outputs that a run does not read. -/
def overgrown : Workflow :=
  [⟨"Ask", .prompt, "\x7b% done %\x7d", [],
      [(Reserved.done, .bool true), (Reserved.goto, .string "nowhere")], "Who?", none⟩,
    ⟨"ask", .after, "", [],
      [(Reserved.goto, .string "ask"), (Reserved.result, .string "I"), (Reserved.model, .int 7)],
      "Nobody", some "broken"⟩]

/-- The steps of `overgrown` steer like those of `roundabout`, in simulation and in execution. -/
theorem steersLike_overgrown (mode : RunMode) :
    List.Forall₂ (Step.SteersLike mode) roundabout overgrown := by
  refine .cons ⟨rfl, rfl, rfl, nofun, nofun, fun _ _ => rfl, fun _ _ => rfl, fun _ _ => rfl,
    fun _ _ => rfl⟩ (.cons ⟨rfl, rfl, rfl, fun _ => rfl, fun _ => rfl, ?_, ?_, ?_, ?_⟩ .nil)
  all_goals exact nofun

/-- The runs of `roundabout` and `overgrown` are the same. Made-up text does not even need the
provider. -/
theorem run_steered_overgrown :
    List.Forall₂ (Step.SteersLike .simulation) roundabout overgrown ∧
      List.Forall₂ (Step.SteersLike .execution) roundabout overgrown ∧ echoing.Functional ∧
      (roundabout.run ⟨echoing.configuration, echoing.providers, .simulation, .stream⟩ [] 0).1 =
        (overgrown.run ⟨echoing.configuration, [], .simulation, .stream⟩ [] ()).1 ∧
      (roundabout.run echoing [] 0).1 = (overgrown.run echoing [] 7).1 :=
  ⟨steersLike_overgrown _, steersLike_overgrown _, functional_echoing,
    (Workflow.run_steered _ _ roundabout overgrown []).1 (steersLike_overgrown _) _ _ 0 (),
    (@Workflow.run_steered Nat Unit _ _ roundabout overgrown []).2 (steersLike_overgrown _) _
      functional_echoing 0 7⟩

end Promptbook
