import Promptbook.Directive.Registry
import Promptbook.Proofs.Directive.InPlace
import Promptbook.Proofs.Directive.Soundness
import Promptbook.Workflow.Plan

/-!
# What a Failing Directive Leaves

A directive that fails ends the rendering, and the outputs that it replies are those of the
rendering. Before it other directives have been called and have answered. The directives that are
always there leave the outputs as these calls have left them, with one exception: where fields are
declared, those before the faulty one stay declared.

## Main definitions

* `FailsWith`: a rendering fails because a directive fails.
* `Prepared.BreaksOff`: the calls of a pass that are answered, and behind them one that fails.
* `Builtin.Declares`: fields that are declared one after another.
* `Builtin.Leaves`: the outputs that a failing call leaves.

## Main results

* `Prepared.Closes.breaksOff`: a rendering that fails with a directive has the outputs that this
  directive replies.
* `Builtin.leaves_of_error`: what the directives that are always there reply when they fail.
* `renderBody_of_failsWith`: what is reported when one of them fails.
-/

namespace Promptbook

open Template (Exchange)

variable {ω : Type}

/-- Rendering `body` fails with `e` because a directive fails with this error, in place or
awaited. -/
def FailsWith (registry : Registry ω) (step : String) (inputs : Variables) (body : String)
    (world : ω) (e : Error) : Prop :=
  ∃ prepared calls passes result, prepare registry inputs body = .ok prepared ∧
    calls.length ≤ maxAwaitedCalls ∧
    prepared.Settles step inputs world calls passes (some e) result

/-- A pass that starts in the world `start` with the kept replies `answers` is broken off in the
state `before` by a `call` that fails with `e`. The directive gives `reply` and leaves the world
`after`. -/
structure Prepared.BreaksOff (prepared : Prepared ω) (step : String) (inputs : Variables)
    (answers : Answers) (start : ω) (before : Pass ω) (call : Call) (reply : Reply) (after : ω)
    (e : Error) : Prop where
  /-- The calls before the failing one are answered and lead to the state `before`. -/
  completed : Exchange.Links (Pass.invoke prepared step inputs answers) (.start start)
    (prepared.exchanges step inputs answers start) before
  /-- The outputs in the state `before` are those that the last of these calls has left. If there is
  no such call, there are none. -/
  accumulated : before.outputs = ((prepared.exchanges step inputs answers start).getLast?.map
    fun exchange => exchange.after.outputs).getD []
  /-- The `call` is one of a directive of the body in this state. -/
  called : ∃ id scope o directive, prepared.directives[id]? = some (o, directive) ∧
    call = before.callOf step inputs id o.name (o.resolve scope before.outputs inputs) ∧
    directive.run call before.world = (reply, after)
  /-- The directive fails with `e`. -/
  failed : reply.result = .error e

section Failures

variable {prepared : Prepared ω} {step : String} {inputs : Variables} {answers : Answers}
  {start : ω} {e : Error}

/-- A call that fails in the state to which answered calls have led breaks the pass off. -/
theorem Prepared.BreaksOff.of_links {before : Pass ω} {id : Nat} {scope : Path → Option Value}
    {o : Occurrence} {directive : Directive ω} {reply : Reply} {after : ω}
    (hlinks : Exchange.Links (Pass.invoke prepared step inputs answers) (.start start)
      (prepared.exchanges step inputs answers start) before)
    (hsome : prepared.directives[id]? = some (o, directive))
    (hreply : directive.run (before.callOf step inputs id o.name
      (o.resolve scope before.outputs inputs)) before.world = (reply, after))
    (herror : reply.result = .error e) :
    prepared.BreaksOff step inputs answers start before
      (before.callOf step inputs id o.name (o.resolve scope before.outputs inputs)) reply after
      e where
  completed := hlinks
  accumulated := by
    rw [hlinks.eq_getLast]
    cases (prepared.exchanges step inputs answers start).getLast? <;> rfl
  called := ⟨id, scope, o, directive, hsome, rfl, hreply⟩
  failed := herror

/-- A rendering in which a directive fails has the outputs that this directive replies, whether it
runs in place or is awaited. -/
theorem Prepared.Closes.breaksOff {final : List (Round ω)} {result : Rendering × ω}
    (h : prepared.Closes step inputs answers start final (some e) result) :
    ∃ before call reply after,
      prepared.BreaksOff step inputs answers start before call reply after e ∧
        result = (⟨reply.outputs, .error e⟩, after) := by
  cases h with
  | failed hpass =>
    obtain ⟨id, scope, before, hlinks, hinvokes⟩ := exists_invokes_of_outcome hpass
    obtain _ | _ | ⟨hsome, -, hreply, herror⟩ := hinvokes
    exact ⟨before, _, _, _, .of_links hlinks hsome hreply herror, rfl⟩
  | @awaitedFailed e round hmade herror =>
    obtain ⟨suspension, pass, occurrence, directive, reply, after⟩ := round
    have hpass : prepared.outcome step inputs answers start = .error (.awaiting suspension) pass :=
      hmade.suspended
    obtain ⟨id, scope, before, hlinks, hinvokes⟩ := exists_invokes_of_outcome hpass
    -- The pass has ended at the awaited directive before this could change anything.
    obtain _ | _ | _ | _ | ⟨hsome, -, -⟩ := hinvokes
    have hfound : prepared.directives[id]? = some (occurrence, directive) := hmade.found
    cases hfound.symm.trans hsome
    exact ⟨before, _, reply, after, .of_links hlinks hfound hmade.replied herror, rfl⟩

/-- A directive that fails in place with `e` during the first pass makes the rendering fail with
`e`. -/
theorem settles_of_outcome {world : ω} {pass : Pass ω}
    (hpass : prepared.outcome step inputs ∅ world = .error (.failed e) pass) :
    prepared.Settles step inputs world [] 1 (some e) (⟨pass.outputs, .error e⟩, pass.world) :=
  ⟨[], ∅, world, [], .none, .failed hpass, rfl, rfl⟩

end Failures

namespace Builtin

/-- Declaring the fields of some arguments one after another, the first one at the position `order`,
leads from `outputs` to `last`. -/
inductive Declares (inputs : Variables) :
    (outputs : Variables) → (order : Nat) → Arguments → (last : Variables) → Prop where
  /-- Without fields nothing changes. -/
  | nil {outputs : Variables} {order : Nat} : Declares inputs outputs order [] outputs
  /-- The field `key` is declared first, and then the fields behind it. -/
  | cons {outputs last : Variables} {order : Nat} {key : String} {v : Value} {spec : FieldSpec}
    {rest : Arguments} (hspec : FieldSpec.ofArgument key v = .ok spec)
    (hrest : Declares inputs (declare inputs outputs key spec order) (order + 1) rest last) :
    Declares inputs outputs order ((key, v) :: rest) last

/-- The outputs that `call` leaves if it fails with `e`. -/
inductive Leaves (call : Call) (e : Error) : Variables → Prop where
  /-- A directive other than the one that declares fields leaves the outputs as they were. -/
  | untouched (hname : call.name ≠ "field") : Leaves call e call.context.outputs
  /-- Where the argument `key` does not specify a field, the fields `early` before it have been
  declared. -/
  | declared {early late : Arguments} {key : String} {v : Value} {outputs : Variables}
    (hname : call.name = "field") (harguments : call.arguments = early ++ (key, v) :: late)
    (hspec : FieldSpec.ofArgument key v = .error e)
    (hdeclares : Declares call.context.inputs call.context.outputs call.fieldIndex early outputs) :
    Leaves call e outputs

/-- Declaring fields fails with `e` at an argument `key` that does not specify a field, and all
arguments before it do. -/
theorem exists_declares_of_error {inputs outputs : Variables} {order : Nat} {arguments : Arguments}
    {e : Error} (h : (declareAll inputs outputs order arguments).result = .error e) :
    ∃ early key v late, arguments = early ++ (key, v) :: late ∧
      FieldSpec.ofArgument key v = .error e ∧
      Declares inputs outputs order early (declareAll inputs outputs order arguments).outputs := by
  induction arguments generalizing outputs order with
  | nil => cases h
  | cons entry rest ih =>
    obtain ⟨key, v⟩ := entry
    unfold declareAll at h ⊢
    cases hspec : FieldSpec.ofArgument key v with
    | error e' =>
      simp only [hspec] at h
      cases h
      exact ⟨[], key, v, rest, rfl, hspec, .nil⟩
    | ok spec =>
      simp only [hspec] at h
      obtain ⟨early, key', v', late, rfl, hfault, hdeclares⟩ := ih h
      exact ⟨(key, v) :: early, key', v', late, rfl, hfault, .cons hspec hdeclares⟩

section Replies

variable {call : Call} {world after : ω} {reply : Reply} {e : Error}

/-- A failing request for examples leaves the outputs as they were. -/
theorem outputs_examples_of_error {retriever : Option (Retriever ω)}
    (hreply : (examples retriever).run call world = (reply, after))
    (herror : reply.result = .error e) : reply.outputs = call.context.outputs := by
  unfold examples at hreply
  cases retriever with
  | none =>
    cases hreply
    cases herror
  | some retrieve =>
    simp only [bind] at hreply
    split at hreply
    · cases hreply
      cases herror
    · unfold StateT.bind at hreply
      generalize retrieve _ _ _ world = found at hreply
      obtain ⟨found, left⟩ := found
      simp only [bind] at hreply
      split at hreply <;> cases hreply <;> rfl

/-- A failing jump leaves the outputs as they were. -/
theorem outputs_goto_of_error (hreply : goto.run call world = (reply, after))
    (herror : reply.result = .error e) : reply.outputs = call.context.outputs := by
  cases htarget : call.arguments.firstKey? with
  | none =>
    simp only [goto, htarget] at hreply
    cases hreply
    rfl
  | some target =>
    simp only [goto, htarget] at hreply
    cases hreply
    cases herror

/-- A built-in directive that fails with `e` leaves the outputs as they were, or with the fields
before the faulty one declared. -/
theorem leaves_of_error {retriever : Option (Retriever ω)} {directive : Directive ω}
    (hfound : Fields.value? (Registry.builtins retriever) call.name = some directive)
    (hreply : directive.run call world = (reply, after)) (herror : reply.result = .error e) :
    Leaves call e reply.outputs := by
  have hmem := Fields.mem_of_value?_collect hfound
  simp only [List.mem_cons, List.not_mem_nil, or_false, Prod.mk.injEq] at hmem
  rcases hmem with ⟨hname, rfl⟩ | ⟨hname, rfl⟩ | ⟨hname, rfl⟩ | ⟨hname, rfl⟩ | ⟨hname, rfl⟩ |
    ⟨hname, rfl⟩
  -- Estimates of words and the end of the workflow never fail.
  · cases hreply
    cases herror
  · cases hreply
    cases herror
  · rw [outputs_examples_of_error hreply herror]
    exact .untouched (by rw [hname]; decide)
  · cases hreply
    obtain ⟨early, key, v, late, harguments, hspec, hdeclares⟩ := exists_declares_of_error herror
    exact .declared hname harguments hspec hdeclares
  · rw [outputs_goto_of_error hreply herror]
    exact .untouched (by rw [hname]; decide)
  · cases hreply
    cases herror

end Replies

end Builtin

/-- If a rendering fails because a built-in directive fails with `e`, its outputs, and those that
are reported, are the ones that the calls before have left in the last pass. The failing call adds
to them only the fields that it has declared before the faulty one. -/
theorem renderBody_of_failsWith (retriever : Option (Retriever ω)) (step : String)
    (instruction : Instruction) (inputs : Variables) (body : String) (world : ω) (e : Error)
    (hfails : FailsWith (Registry.builtins retriever) step inputs body world e) :
    ∃ prepared rounds answers start before call reply after,
      prepare (Registry.builtins retriever) inputs body = .ok prepared ∧
      prepared.Rounds step inputs ∅ world rounds answers start ∧
      prepared.BreaksOff step inputs answers start before call reply after e ∧
      call.context.outputs = before.outputs ∧ Builtin.Leaves call e reply.outputs ∧
      render (Registry.builtins retriever) step inputs body world =
        (⟨reply.outputs, .error e⟩, after) ∧
      renderBody (Registry.builtins retriever) step instruction body inputs world =
        (⟨"", reply.outputs, some (stepError instruction step e)⟩, after) := by
  obtain ⟨prepared, calls, passes, result, hprepare, hlimit, hsettles⟩ := hfails
  have hrender := render_of_settles hprepare hsettles hlimit
  obtain ⟨rounds, answers, start, final, hrounds, hcloses, -⟩ := hsettles
  obtain ⟨before, call, reply, after, hbreaks, rfl⟩ := hcloses.breaksOff
  obtain ⟨id, scope, o, directive, hsome, rfl, hreply⟩ := hbreaks.called
  refine ⟨prepared, rounds, answers, start, before, _, reply, after, hprepare, hrounds, hbreaks,
    rfl, ?_, hrender, ?_⟩
  -- Only the directives that are always there can have been called.
  · exact Builtin.leaves_of_error (Prepared.directive_of_prepare hprepare hsome) hreply
      hbreaks.failed
  · simp only [renderBody, bind, StateT.bind, hrender]
    rfl

section Examples

/-- What a directive that fails in place during the first pass leaves. -/
structure FirstFailure where
  /-- The error. -/
  error : Error
  /-- How many calls have been answered before. -/
  answered : Nat
  /-- The outputs. -/
  outputs : Variables
  deriving DecidableEq

/-- How the first pass over `body` is broken off, with the built-in directives. -/
def firstFailure? (body : String) : Option FirstFailure :=
  match prepare (Registry.builtins none) [] body with
  | .error _ => none
  | .ok prepared =>
    match prepared.outcome "greeting" [] ∅ () with
    | .error (.failed e) pass =>
      some ⟨e, (prepared.exchanges "greeting" [] ∅ ()).length, pass.outputs⟩
    | _ => none

/-- If the first pass over `body` is broken off, the rendering fails and has the outputs that are
left. -/
theorem failsWith_of_firstFailure? {body : String} {failure : FirstFailure}
    (h : firstFailure? body = some failure) :
    FailsWith (Registry.builtins (none : Option (Retriever Unit))) "greeting" [] body ()
        failure.error ∧
      (render (Registry.builtins (none : Option (Retriever Unit))) "greeting" []
        body ()).1.outputs = failure.outputs := by
  unfold firstFailure? at h
  split at h
  · cases h
  · next prepared hprepare =>
    split at h
    · next hpass =>
      cases h
      have hsettles := settles_of_outcome hpass
      refine ⟨⟨prepared, [], 1, _, hprepare, Nat.zero_le _, hsettles⟩, ?_⟩
      rw [render_of_settles hprepare hsettles (Nat.zero_le _)]
    · cases h

/-- A body that is to end the workflow, in which a jump without a target then fails. -/
def brokenLoop : String :=
  "{% for i in (1..2) %}{% done %}{% goto %}{% endfor %}"

/-- In `brokenLoop` the end of the workflow is still recorded, and nothing else. -/
theorem renderBody_brokenLoop :
    FailsWith (Registry.builtins (none : Option (Retriever Unit))) "greeting" [] brokenLoop ()
        (.missingArgument "goto" "target") ∧
      ∃ (call : Call) (reply : Reply),
        Builtin.Leaves call (.missingArgument "goto" "target") reply.outputs ∧
        reply.outputs = [(Reserved.done, .bool true)] ∧
        renderBody (Registry.builtins none) "greeting" .prompt brokenLoop [] () =
          (⟨"", reply.outputs,
            some (stepError .prompt "greeting" (.missingArgument "goto" "target"))⟩, ()) := by
  have hfirst : firstFailure? brokenLoop =
      some ⟨.missingArgument "goto" "target", 1, [(Reserved.done, .bool true)]⟩ := by
    decide +kernel
  obtain ⟨hfails, hleft⟩ := failsWith_of_firstFailure? hfirst
  obtain ⟨_, _, _, _, _, call, reply, _, -, -, -, -, hleaves, hrender, hreported⟩ :=
    renderBody_of_failsWith none "greeting" .prompt [] brokenLoop () _ hfails
  rw [hrender] at hleft
  exact ⟨hfails, call, reply, hleaves, hleft, hreported⟩

/-- A body with a declaration of fields: the first argument specifies a field, and the second one
does not. -/
def partlyDeclared : String :=
  "\x7b% field a='\x7b\x7d' b=1 %\x7d"

/-- In `partlyDeclared` no call has been answered before the failing one, and yet outputs are left:
the failing call has declared the first field. -/
theorem render_partlyDeclared :
    ∃ failure, firstFailure? partlyDeclared = some failure ∧ failure.answered = 0 ∧
      FailsWith (Registry.builtins (none : Option (Retriever Unit))) "greeting" [] partlyDeclared ()
        failure.error ∧
      (render (Registry.builtins (none : Option (Retriever Unit))) "greeting" [] partlyDeclared
        ()).1.outputs.names = [Reserved.promptFields, "a"] := by
  have hfirst : (firstFailure? partlyDeclared).map
      (fun failure => (failure.answered, failure.outputs.names)) =
        some (0, [Reserved.promptFields, "a"]) := by
    decide +kernel
  obtain ⟨failure, hfailure, hnames⟩ := Option.map_eq_some_iff.1 hfirst
  obtain ⟨hanswered, hnames⟩ := Prod.mk.inj hnames
  obtain ⟨hfails, hleft⟩ := failsWith_of_firstFailure? hfailure
  exact ⟨failure, hfailure, hanswered, hfails, by rw [hleft, hnames]⟩

end Examples

end Promptbook
