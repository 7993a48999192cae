import Promptbook.Directive.Rendering
import Promptbook.Proofs.Template.Dialogue

/-!
# One Pass of a Rendering

What a single call does to the state of a pass, and a whole pass as a dialogue:

* `Pass.run_run` — a directive that runs in place is called in the present state, and its reply is
  received whether it fails or not.
* `Pass.run_replay_of_answer`, `Pass.run_replay_of_unlike` — an awaited directive is answered from
  the kept replies, or the pass ends at it.
* `Prepared.exists_dialogue` — one dialogue stands for all passes of a body, whatever answers they
  are given and in whatever world they start.
* `Prepared.renderInPlace_eq`, `Prepared.renderWith_eq_ofPass`, `Prepared.renderWith_of_awaiting` —
  both ways of rendering, read off that dialogue.
-/

namespace Promptbook

open Template (Dialogue Ending Host)

variable {ω : Type}

/-- Under each `key`, `answers` keep a reply for arguments that are alike to `arguments`, or nothing
that may be put in for them. -/
theorem Answers.kept_or_unlike (answers : Answers) (key : Nat × Nat) (arguments : Arguments) :
    (∃ answer, answers[key]? = some answer ∧ answer.arguments.alike arguments = true) ∨
      ∀ answer, answers[key]? = some answer → answer.arguments.alike arguments = false := by
  by_cases h : ∃ answer, answers[key]? = some answer ∧ answer.arguments.alike arguments = true
  · exact .inl h
  · refine .inr fun answer hkept => Bool.eq_false_iff.2 fun harguments => ?_
    exact h ⟨answer, hkept, harguments⟩

namespace Pass

/-- The call that the occurrence `id` of the directive `name` makes in the present state of
`pass`. -/
def callOf (pass : Pass ω) (step : String) (inputs : Variables) (id : Nat) (name : String)
    (arguments : Arguments) : Call :=
  ⟨name, ⟨step, inputs, pass.outputs⟩, arguments, pass.fieldIndexes.getD id 0⟩

/-- The pass after the `reply` to a call of the occurrence `id`, in the `world` that the call
left. -/
def received (pass : Pass ω) (id : Nat) (reply : Reply) (world : ω) : Pass ω :=
  { pass with
    outputs := reply.outputs
    fieldIndexes := pass.fieldIndexes.insert id reply.fieldIndex
    world := world }

/-- The pass after the awaited directive of the occurrence `id` has been met once more. -/
def met (pass : Pass ω) (id : Nat) : Pass ω :=
  { pass with visits := pass.visits.insert id (pass.visits.getD id 0 + 1) }

/-- The pass after the kept `answer` has been put in for the occurrence `id`. -/
def answered (pass : Pass ω) (id : Nat) (answer : Answer) : Pass ω :=
  { pass.met id with
    outputs := answer.outputs
    fieldIndexes := pass.fieldIndexes.insert id answer.fieldIndex }

/-- The pass with `world` in place of its own. -/
def inWorld (pass : Pass ω) (world : ω) : Pass ω :=
  { pass with world := world }

@[simp]
theorem outputs_inWorld (pass : Pass ω) (world : ω) : (pass.inWorld world).outputs = pass.outputs :=
  rfl

variable (pass : Pass ω) (step : String) (inputs : Variables) (answers : Answers) (id : Nat)

/-- Running `directive` in place calls it in the present state of the pass, and the pass receives
its `reply`. -/
theorem run_run {name : String} {directive : Directive ω} {arguments : Arguments} {reply : Reply}
    {world : ω}
    (hreply : directive.run (pass.callOf step inputs id name arguments) pass.world =
      (reply, world)) :
    (Pass.run step inputs id name directive arguments).run pass =
      match reply.result with
      | .ok text => .ok (text, reply.outputs) (pass.received id reply world)
      | .error e => .error (.failed e) (pass.received id reply world) := by
  unfold callOf at hreply
  unfold Pass.run
  simp only [EStateM.run_bind, EStateM.run_get, hreply]
  cases reply.result <;> rfl

/-- A visit of an awaited directive gets the `answer` that is kept for the visit, if the arguments
kept with it are alike to `arguments`. -/
theorem run_replay_of_answer {arguments : Arguments} {answer : Answer}
    (h : answers[(id, pass.visits.getD id 0)]? = some answer)
    (harguments : answer.arguments.alike arguments = true) :
    (Pass.replay answers id arguments).run pass =
      .ok (answer.text, answer.outputs) (pass.answered id answer) := by
  unfold Pass.replay
  simp only [EStateM.run_bind, EStateM.run_get, h, if_pos harguments]
  rfl

/-- If no reply is kept for a visit of an awaited directive, or one for arguments that are not alike
to `arguments`, the pass ends with a request for a reply. -/
theorem run_replay_of_unlike {arguments : Arguments}
    (h : ∀ answer, answers[(id, pass.visits.getD id 0)]? = some answer →
      answer.arguments.alike arguments = false) :
    (Pass.replay answers id arguments).run pass =
      .error (.awaiting ⟨id, pass.visits.getD id 0, arguments, pass.fieldIndexes.getD id 0⟩)
        (pass.met id) := by
  unfold Pass.replay
  cases hkept : answers[(id, pass.visits.getD id 0)]? with
  | none =>
    simp only [EStateM.run_bind, EStateM.run_get, hkept]
    rfl
  | some answer =>
    simp only [EStateM.run_bind, EStateM.run_get, hkept, h answer hkept]
    rfl

variable (prepared : Prepared ω) (scope : Path → Option Value)

/-- If no directive stands under the number `id`, nothing is called. -/
theorem run_invoke_of_none (h : prepared.directives[id]? = none) :
    (Pass.invoke prepared step inputs answers id scope).run pass =
      .ok (none, pass.outputs) pass := by
  unfold Pass.invoke
  simp only [EStateM.run_bind, EStateM.run_get, h]
  rfl

/-- An awaited directive is answered from the kept replies in `answers`. -/
theorem run_invoke_of_awaited {o : Occurrence} {directive : Directive ω}
    (h : prepared.directives[id]? = some (o, directive)) (hawaited : directive.awaited = true) :
    (Pass.invoke prepared step inputs answers id scope).run pass =
      (Pass.replay answers id (o.resolve scope pass.outputs inputs)).run pass := by
  unfold Pass.invoke
  simp only [EStateM.run_bind, EStateM.run_get, h, hawaited, if_true]

/-- A directive that is not awaited runs in place. -/
theorem run_invoke_of_immediate {o : Occurrence} {directive : Directive ω}
    (h : prepared.directives[id]? = some (o, directive)) (hawaited : directive.awaited = false) :
    (Pass.invoke prepared step inputs answers id scope).run pass =
      (Pass.run step inputs id o.name directive
        (o.resolve scope pass.outputs inputs)).run pass := by
  unfold Pass.invoke
  simp only [EStateM.run_bind, EStateM.run_get, h, hawaited]
  rfl

/-- Also when everything runs in place, nothing is called if no directive stands under the number
`id`. -/
theorem run_invokeInPlace_of_none (h : prepared.directives[id]? = none) :
    (Pass.invokeInPlace prepared step inputs id scope).run pass =
      .ok (none, pass.outputs) pass := by
  unfold Pass.invokeInPlace
  simp only [EStateM.run_bind, EStateM.run_get, h]
  rfl

/-- When everything runs in place, so does `directive`, awaited or not. -/
theorem run_invokeInPlace_of_some {o : Occurrence} {directive : Directive ω}
    (h : prepared.directives[id]? = some (o, directive)) :
    (Pass.invokeInPlace prepared step inputs id scope).run pass =
      (Pass.run step inputs id o.name directive
        (o.resolve scope pass.outputs inputs)).run pass := by
  unfold Pass.invokeInPlace
  simp only [EStateM.run_bind, EStateM.run_get, h]

end Pass

namespace Prepared

variable (prepared : Prepared ω)

/-- Holding the dialogue `d` stands for rendering the body, with any host. -/
def IsDialogue (d : Dialogue (Ending Unit)) : Prop :=
  ∀ {ε σ : Type} (call : Host ε σ) (host : σ),
    Template.observe
        ((Template.renderNodes ⟨prepared.globals, call⟩ [] prepared.nodes).run (.start host)) =
      (d.hold call).run host

/-- Every body that can be prepared has a dialogue. -/
theorem exists_dialogue : ∃ d, prepared.IsDialogue d :=
  Template.exists_dialogue prepared.globals prepared.nodes

/-- A pass over the body is its dialogue `d`, held with `call` from the start in `world`. -/
theorem IsDialogue.observe_pass {prepared : Prepared ω} {d : Dialogue (Ending Unit)}
    (h : prepared.IsDialogue d) (call : Host Interruption (Pass ω)) (world : ω) :
    Template.observe (prepared.pass call world) = (d.hold call).run (.start world) :=
  h call (.start world)

end Prepared

/-- The rendering that a pass ends with, and the world that it leaves. A pass that ends at an
awaited directive counts as one that may await no more. -/
def Rendering.ofPass : EStateM.Result Interruption (Pass ω) (Ending Unit) → Rendering × ω
  | .ok (.ok (), machine) pass => (⟨pass.outputs, .ok machine.out⟩, pass.world)
  | .ok (.error f, _) pass => (⟨pass.outputs, .error (faultError f)⟩, pass.world)
  | .error (.failed e) pass => (⟨pass.outputs, .error e⟩, pass.world)
  | .error (.awaiting _) pass => (⟨pass.outputs, .error tooManyCalls⟩, pass.world)

namespace Prepared

variable {prepared : Prepared ω} {d : Dialogue (Ending Unit)} (h : prepared.IsDialogue d)
  (step : String) (inputs : Variables)

include h

/-- Rendering in place is holding the dialogue `d` with every directive run in place. -/
theorem renderInPlace_eq {registry : Registry ω} {body : String}
    (hprepare : prepare registry inputs body = .ok prepared) (world : ω) :
    renderInPlace registry step inputs body world =
      Rendering.ofPass ((d.hold (Pass.invokeInPlace prepared step inputs)).run (.start world)) := by
  rw [← h.observe_pass]
  unfold renderInPlace
  simp only [hprepare]
  -- A result is a text, a fault of the template, a failure of a directive or an awaited call.
  rcases prepared.pass (Pass.invokeInPlace prepared step inputs) world with
    ⟨_, machine⟩ | ⟨f | e | s, machine⟩ <;> rfl

/-- A pass that does not end at an awaited directive is the last one, and gives the rendering. -/
theorem renderWith_eq_ofPass {answers : Answers} {world : ω} (remaining : Nat)
    (hlast : ∀ s pass,
      (d.hold (Pass.invoke prepared step inputs answers)).run (.start world) ≠
        .error (.awaiting s) pass) :
    prepared.renderWith step inputs remaining answers world =
      Rendering.ofPass
        ((d.hold (Pass.invoke prepared step inputs answers)).run (.start world)) := by
  rw [← h.observe_pass] at hlast ⊢
  unfold renderWith
  generalize prepared.pass (Pass.invoke prepared step inputs answers) world = result at hlast ⊢
  rcases result with ⟨_, machine⟩ | ⟨f | e | s, machine⟩
  · rfl
  · rfl
  · rfl
  -- Only an awaited call would make another pass necessary.
  · exact absurd rfl (hlast s machine.host)

/-- If no more calls may be awaited, a pass that would have to await one is the last, too. -/
theorem renderWith_of_awaiting_zero {answers : Answers} {world : ω} {s : Suspension}
    {pass : Pass ω}
    (hpass : (d.hold (Pass.invoke prepared step inputs answers)).run (.start world) =
      .error (.awaiting s) pass) :
    prepared.renderWith step inputs 0 answers world =
      (⟨pass.outputs, .error tooManyCalls⟩, pass.world) := by
  rw [← h.observe_pass] at hpass
  unfold renderWith
  generalize prepared.pass (Pass.invoke prepared step inputs answers) world = result at hpass ⊢
  rcases result with ⟨_, machine⟩ | ⟨f | e | s', machine⟩ <;> cases hpass
  rfl

/-- If a call may still be awaited, the directive is called from the state in which the pass ended.
Unless it fails, its reply is kept under the visit of `s`, and another pass begins. -/
theorem renderWith_of_awaiting {answers : Answers} {world : ω} {s : Suspension} {pass : Pass ω}
    {o : Occurrence} {directive : Directive ω} (remaining : Nat)
    (hpass : (d.hold (Pass.invoke prepared step inputs answers)).run (.start world) =
      .error (.awaiting s) pass)
    (hdirective : prepared.directives[s.occurrence]? = some (o, directive)) :
    prepared.renderWith step inputs (remaining + 1) answers world =
      let after := s.run directive o.name step inputs pass.outputs pass.world
      match after.1.result with
      | .error e => (⟨after.1.outputs, .error e⟩, after.2)
      | .ok text =>
        prepared.renderWith step inputs remaining
          (answers.insert (s.occurrence, s.visit)
            ⟨s.arguments, text, after.1.outputs, after.1.fieldIndex⟩) after.2 := by
  rw [← h.observe_pass] at hpass
  rw [renderWith]
  generalize prepared.pass (Pass.invoke prepared step inputs answers) world = result at hpass ⊢
  rcases result with ⟨_, machine⟩ | ⟨f | e | s', machine⟩ <;> cases hpass
  -- The outputs and the world are those of the machine in which the pass has ended.
  simp only [hdirective]
  rfl

end Prepared

end Promptbook
