import Promptbook.Proofs.Directive.Received

/-!
# Variables that Directives Publish

Three stores hold the variables of a rendering: the outputs of the directives, the variables that
are there from the start, and those that the template assigns. After each call the outputs are
published, all of them and not only those that the directive has written, so an output is read with
its value again where the template has assigned another one in between. Nothing else changes.

## Main definitions

* `Registry.Orderly`: directives keep the outputs in the order of their names.
* `Publishes`: what a call changes in the state of a rendering.

## Main results

* `Template.run_publish_of_ok`: publishing lays variables over those that have been assigned.
* `Prepared.sorted_of_asked`: wherever a rendering calls a directive, the outputs are in order.
* `publishes_of_call`: what a call of a directive changes wherever a rendering comes to it.
-/

namespace Promptbook

open Template (Dialogue Ending Frames Machine Question Run lookup)

variable {ω : Type}

namespace Template

variable {ε σ : Type}

/-- The variables of a template that stand for the outputs `published` by a host. -/
def operands (published : Variables) : Fields Operand :=
  published.map fun entry => (entry.1, .value entry.2)

/-- Publishing lays the variables `published` over those that have been assigned, and changes
nothing else. -/
theorem run_publish_of_ok {published : Variables} {machine machine' : Machine σ}
    (h : (Run.publish published : Run ε σ Unit).run machine = .ok () machine') :
    machine' = { machine with assigned := machine.assigned.overlay (operands published) } := by
  induction published generalizing machine with
  | nil =>
    cases h
    rfl
  | cons entry rest ih =>
    obtain ⟨name, v⟩ := entry
    unfold Run.publish at h
    split at h
    · -- The first variable is assigned, and the others are published over it.
      exact ih h
    · cases h

/-- Laid over `assigned`, the outputs `published` are read with their values, and all other
variables as before. -/
theorem value?_overlay_operands (assigned : Fields Operand) {published : Variables}
    (h : published.Sorted) (name : String) :
    (assigned.overlay (operands published)).value? name =
      ((published.value? name).map .value).or (assigned.value? name) := by
  rw [Fields.value?_overlay, operands, (h.mapValues Operand.value).collect_eq,
    Fields.value?_mapValues]

end Template

/-- If the outputs in its call are in order, so are those in the reply of `directive`. -/
def Directive.Orderly (directive : Directive ω) : Prop :=
  ∀ call world reply after, directive.run call world = (reply, after) →
    call.context.outputs.Sorted → reply.outputs.Sorted

/-- Every directive in `registry` keeps the outputs in order. -/
def Registry.Orderly (registry : Registry ω) : Prop :=
  ∀ name directive, Fields.value? registry name = some directive → directive.Orderly

/-- The outputs of all replies that `answers` keeps are in order. -/
def Answers.Orderly (answers : Answers) : Prop :=
  ∀ (key : Nat × Nat) (answer : Answer), answers[key]? = some answer → answer.outputs.Sorted

/-- An `answer` with outputs in order may be kept beside the others. -/
theorem Answers.Orderly.insert {answers : Answers} (h : answers.Orderly) (key : Nat × Nat)
    {answer : Answer} (hanswer : answer.outputs.Sorted) :
    Answers.Orderly (answers.insert key answer) := by
  intro other found hfound
  rw [Std.HashMap.getElem?_insert] at hfound
  split at hfound
  · cases hfound
    exact hanswer
  · exact h other found hfound

namespace Prepared

/-- Every directive that stands in the body keeps the outputs in order. -/
def Orderly (prepared : Prepared ω) : Prop :=
  ∀ (id : Nat) (o : Occurrence) (directive : Directive ω),
    prepared.directives[id]? = some (o, directive) → directive.Orderly

theorem orderly_of_prepare {registry : Registry ω} {inputs : Variables} {body : String}
    {prepared : Prepared ω} (hregistry : registry.Orderly)
    (hprepare : prepare registry inputs body = .ok prepared) : prepared.Orderly :=
  fun _ o directive hsome => hregistry o.name directive (directive_of_prepare hprepare hsome)

variable {prepared : Prepared ω} {step : String} {inputs : Variables} {answers : Answers}

section Order

variable (hprepared : prepared.Orderly)

include hprepared

/-- A call that is answered leaves the outputs of the pass in order, and gives all of them to the
template for publication. -/
theorem sorted_of_invoke (hanswers : answers.Orderly) {id : Nat} {scope : Path → Option Value}
    {pass after : Pass ω} {answer : Option String × Variables} (hpass : pass.outputs.Sorted)
    (hcall : (Pass.invoke prepared step inputs answers id scope).run pass = .ok answer after) :
    after.outputs.Sorted ∧ answer.2 = after.outputs := by
  have hinvokes := Pass.invokes prepared step inputs answers id scope pass
  rw [hcall] at hinvokes
  cases hinvokes with
  | nothing hnone => exact ⟨hpass, rfl⟩
  | ran hsome himmediate hreply htext =>
    exact ⟨hprepared _ _ _ hsome _ _ _ _ hreply hpass, rfl⟩
  | replayed hsome hawaited hkept harguments => exact ⟨hanswers _ _ hkept, rfl⟩

/-- Wherever a pass calls a directive, its outputs are in order. -/
theorem sorted_of_mem_questions (hanswers : answers.Orderly) {world : ω}
    {question : Question (Pass ω)}
    (h : question ∈ prepared.questions step inputs answers world) :
    question.host.outputs.Sorted := by
  obtain ⟨d, hd⟩ := prepared.exists_dialogue
  rw [hd.questions_eq] at h
  refine Dialogue.host_of_mem_questions (fun pass => pass.outputs.Sorted)
    (fun id scope before answer after hbefore hcall => ?_) Fields.sorted_nil question h
  exact (sorted_of_invoke hprepared hanswers hbefore hcall).1

/-- If the outputs of the replies in `answers` are in order, so are those of the replies that rounds
add to them. -/
theorem Rounds.orderly {world last : ω} {rounds : List (Round ω)} {answers' : Answers}
    (h : prepared.Rounds step inputs answers world rounds answers' last)
    (hanswers : answers.Orderly) : answers'.Orderly := by
  induction h with
  | none => exact hanswers
  | @more answers _ world _ round _ text hmade htext _ ih =>
    refine ih (hanswers.insert _ ?_)
    -- The awaited call goes on from the outputs at the question at which the pass has ended.
    obtain ⟨question, hquestion, hcall⟩ := exists_question_of_made hmade
    have hsorted := sorted_of_mem_questions hprepared hanswers hquestion
    obtain ⟨⟨o, directive⟩, -, heq⟩ := Option.map_eq_some_iff.1 hcall
    have houtputs : (round.call step inputs).context.outputs.Sorted := by
      rw [← (LoggedCall.mk.inj heq).2]
      exact hsorted
    exact hprepared _ _ _ hmade.found _ _ _ _ hmade.replied houtputs

end Order

end Prepared

/-- What a call of a directive that gives `text` changes in a rendering, from the state `before` to
the state `after`, inside of loops with the variables `frames`. -/
structure Publishes (globals : Variables) (frames : Frames) (text : String)
    (before after : Machine (Pass ω)) : Prop where
  /-- Unless a loop has a variable of that name, every output is read with its value, whether the
  directive has written it or not, and whatever the template has assigned `before`. -/
  published : ∀ name v, after.host.outputs.value? name = some v → frames.lookup name = none →
    lookup globals frames after name = some (.value v)
  /-- What is no output before and after the call is read as it was `before`. -/
  untouched : ∀ name, before.host.outputs.value? name = none →
    after.host.outputs.value? name = none →
    lookup globals frames after name = lookup globals frames before name
  /-- The variables of loops hide all others, before and after the call. -/
  hidden : ∀ name operand, frames.lookup name = some operand →
    lookup globals frames before name = some operand ∧
      lookup globals frames after name = some operand
  /-- The `text` is written out, and nothing else changes but the assigned variables and the state
  of the host. -/
  kept : after =
    { before with assigned := after.assigned, out := before.out ++ text, host := after.host }

/-- To lay the outputs of `host` over what has been assigned is to publish them. -/
theorem Publishes.of_overlay (globals : Variables) (frames : Frames) (text : String)
    (before : Machine (Pass ω)) {host : Pass ω} (hhost : host.outputs.Sorted) :
    Publishes globals frames text before
      { before with
        assigned := before.assigned.overlay (Template.operands host.outputs)
        out := before.out ++ text
        host := host } := by
  constructor
  case published =>
    intro name v hv hframes
    simp only [lookup, hframes]
    rw [Template.value?_overlay_operands _ hhost, hv]
    rfl
  case untouched =>
    intro name _ hafter
    simp only [lookup]
    rw [Template.value?_overlay_operands _ hhost, hafter]
    rfl
  case hidden =>
    intro name operand hframes
    simp only [lookup, hframes]
    exact ⟨trivial, trivial⟩
  case kept => rfl

/-- A call of a directive that comes back to the rendering publishes the outputs, whatever the
rendering has done `before`. -/
theorem Prepared.publishes_of_invoke {prepared : Prepared ω} {step : String} {inputs : Variables}
    {answers : Answers} (hprepared : prepared.Orderly) (hanswers : answers.Orderly)
    {frames : Frames} {id : Nat} {before after : Machine (Pass ω)}
    (hbefore : before.host.outputs.Sorted)
    (hcall : (Run.call ⟨prepared.globals, Pass.invoke prepared step inputs answers⟩ frames id).run
      before = .ok () after) :
    ∃ text, Publishes prepared.globals frames text before after := by
  cases hinvoke : (Pass.invoke prepared step inputs answers id
      (Template.valueAt (lookup prepared.globals frames before))).run before.host with
  | error i host =>
    rw [Template.run_call_of_error ⟨prepared.globals, _⟩ hinvoke] at hcall
    cases hcall
  | ok answer host =>
    rw [Template.run_call_of_ok ⟨prepared.globals, _⟩ hinvoke] at hcall
    -- A call that comes back has its outputs in order and has all of them published.
    obtain ⟨hsorted, houtputs⟩ := sorted_of_invoke hprepared hanswers hbefore hinvoke
    rw [houtputs, EStateM.run_bind] at hcall
    cases hpublish : (Run.publish host.outputs : Run Interruption (Pass ω) Unit).run
        (before.withHost host) with
    | error stop machine =>
      rw [hpublish] at hcall
      cases hcall
    | ok _ machine =>
      rw [hpublish] at hcall
      cases hcall
      obtain rfl := Template.run_publish_of_ok hpublish
      exact ⟨answer.1.getD "", .of_overlay _ _ _ before hsorted⟩

/-- Wherever a rendering comes to a directive whose call comes back to it, the call publishes the
outputs and changes nothing else: an output that the directive has set or left is read with its
value, and what is no output before and after the call is read as before. -/
theorem publishes_of_call (registry : Registry ω) (hregistry : registry.Orderly) (step : String)
    (inputs : Variables) (body : String) (world : ω) (prepared : Prepared ω)
    (hprepare : prepare registry inputs body = .ok prepared) (rounds : List (Round ω))
    (answers : Answers) (start : ω)
    (hrounds : prepared.Rounds step inputs ∅ world rounds answers start)
    (question : Question (Pass ω))
    (hquestion : question ∈ prepared.questions step inputs answers start) (frames : Frames)
    (before after : Machine (Pass ω)) (hhost : before.host = question.host)
    (hcall : (Run.call ⟨prepared.globals, Pass.invoke prepared step inputs answers⟩ frames
      question.id).run before = .ok () after) :
    ∃ text, Publishes prepared.globals frames text before after := by
  have hprepared := Prepared.orderly_of_prepare hregistry hprepare
  have hanswers := hrounds.orderly hprepared fun key answer h => by simp at h
  refine Prepared.publishes_of_invoke hprepared hanswers ?_ hcall
  rw [hhost]
  exact Prepared.sorted_of_mem_questions hprepared hanswers hquestion

/-- A directive that sets an output, one that leaves all outputs as they are, and one that removes
the output. -/
def settingOnce : Registry Unit :=
  [("put", ⟨false, fun call => return ⟨call.context.outputs.put "x" (.string "1"), call.fieldIndex,
      .ok none⟩⟩),
    ("skip", ⟨false, fun call => return call.answer none⟩),
    ("drop", ⟨false, fun call => return ⟨call.context.outputs.without "x", call.fieldIndex,
      .ok none⟩⟩)]

theorem orderly_settingOnce : settingOnce.Orderly := by
  intro name directive hfound call world reply after hreply hsorted
  have hmem := Fields.mem_of_value? hfound
  simp only [settingOnce, List.mem_cons, List.not_mem_nil, or_false, Prod.mk.injEq] at hmem
  rcases hmem with ⟨-, rfl⟩ | ⟨-, rfl⟩ | ⟨-, rfl⟩
  · cases hreply
    exact hsorted.put _ _
  · cases hreply
    exact hsorted
  · cases hreply
    exact hsorted.without _

/-- A body that assigns another value to the output before it calls the second directive. -/
def reassignedBody : String :=
  "{% put %}{% assign x = 2 %}{{ x }}{% skip %}{{ x }}"

/-- A state of the rendering in which the template has assigned another value to the output. -/
def reassigned (host : Pass Unit) : Machine (Pass Unit) :=
  { Machine.start host with assigned := [("x", .value (.int 2))] }

/-- The last call in the body of `prepared`, and the state that it leaves when it is made in such a
state. -/
def lastCall (prepared : Prepared Unit) : Option (Question (Pass Unit) × Machine (Pass Unit)) :=
  (prepared.questions "greeting" [] ∅ ()).getLast?.bind fun question =>
    match (Run.call ⟨prepared.globals, Pass.invoke prepared "greeting" [] ∅⟩ [] question.id).run
        (reassigned question.host) with
    | .ok () after => some (question, after)
    | .error _ _ => none

/-- The output is read with its value again after the last call of `reassignedBody`. -/
theorem publishes_reassigned :
    settingOnce.Orderly ∧ ∃ prepared question after text,
      prepare settingOnce [] reassignedBody = .ok prepared ∧
      question ∈ prepared.questions "greeting" [] ∅ () ∧
      lastCall prepared = some (question, after) ∧
      Publishes prepared.globals [] text (reassigned question.host) after := by
  -- That there is a last call that comes back is a test, and evaluation passes it.
  have hlast : (match prepare settingOnce [] reassignedBody with
      | .ok prepared => (lastCall prepared).isSome
      | .error _ => false) = true := by
    decide +kernel
  cases hprepare : prepare settingOnce [] reassignedBody with
  | error e =>
    rw [hprepare] at hlast
    cases hlast
  | ok prepared =>
    rw [hprepare] at hlast
    obtain ⟨⟨question, after⟩, hcall⟩ := Option.isSome_iff_exists.1 hlast
    obtain ⟨question', hquestion, hrun⟩ := Option.bind_eq_some_iff.1 hcall
    split at hrun
    · next hok =>
      cases hrun
      have hmem := List.mem_of_getLast? hquestion
      obtain ⟨text, h⟩ := publishes_of_call settingOnce orderly_settingOnce "greeting" []
        reassignedBody () prepared hprepare [] ∅ () .none question hmem [] _ after rfl hok
      exact ⟨orderly_settingOnce, prepared, question, after, text, rfl, hmem, hcall, h⟩
    · cases hrun

/-- A directive that leaves an output as it is changes what is read, if the template has assigned
another value to it, and the value of an output that is removed is still read. -/
theorem render_settingOnce_reassigned :
    ((∀ call world directive, Fields.value? settingOnce "skip" = some directive →
        (directive.run call world).1.outputs = call.context.outputs) ∧
      (render settingOnce "greeting" [] reassignedBody ()).1.result.toOption = some "21") ∧
    (∀ call world directive, Fields.value? settingOnce "drop" = some directive →
        Fields.value? (directive.run call world).1.outputs "x" = none) ∧
      (render settingOnce "greeting" [("x", .string "in")] "{% put %}{% drop %}{{ x }}"
        ()).1.result.toOption = some "1" := by
  refine ⟨⟨fun call world directive hfound => ?_, by decide +kernel⟩,
    fun call world directive hfound => ?_, by decide +kernel⟩
  · cases hfound
    rfl
  · cases hfound
    exact (Fields.value?_without _ _ _).trans (if_pos rfl)

end Promptbook
