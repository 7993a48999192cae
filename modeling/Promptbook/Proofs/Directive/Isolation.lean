import Promptbook.Directive.Registry
import Promptbook.Proofs.Directive.InPlace

/-!
# Renderings in Isolation

What a body is rendered to does not depend on what has been rendered before, if the replies of
directives are functions of their calls: no variable, no position of a field and no kept reply gets
from one rendering into another. All that they share is the world, and that is not seen.

## Main definitions

* `Options.Functional`: what the caller adds to planning answers as a function of its call.

## Main results

* `Prepared.resume_eq_of_agrees`: from passes that agree, the same is rendered in every world.
* `Registry.Functional.fst_render`: a body is rendered to the same in every world.
* `Options.Functional.registry`: all known directives are functions of their calls if those that the
  caller adds are, and the source of examples is one as well.
-/

namespace Promptbook

open Template (Dialogue Ending)

variable {ω : Type}

/-- What `retrieve` answers is a function of the query, the count and the corpus: it does not depend
on the world. -/
def Retriever.Functional (retrieve : Retriever ω) : Prop :=
  ∀ query count source world world',
    (retrieve query count source world).1 = (retrieve query count source world').1

/-- Whatever the caller adds to planning through `options` answers as a function of its call. -/
structure Options.Functional (options : Options ω) : Prop where
  /-- The awaited directives of `options` are functions of their calls. -/
  awaited : ∀ entry ∈ options.awaited, ∀ call world world',
    (entry.2 call world).1 = (entry.2 call world').1
  /-- The directives of `options` that run in place are functions of their calls. -/
  immediate : ∀ entry ∈ options.immediate, ∀ call world world',
    (entry.2 call world).1 = (entry.2 call world').1
  /-- The source of examples of `options`, if it has one, is a function of the query. -/
  retriever : ∀ retrieve, options.retriever = some retrieve → Retriever.Functional retrieve

section Renderings

/-- Passes that agree still do so after the same `reply` has been put in both, in whatever
worlds. -/
theorem Pass.Agrees.bothAnswered {pass other : Pass ω} (h : pass.Agrees other) (id : Nat)
    (arguments arguments' : Arguments) (text : Option String) (reply : Reply) (world world' : ω) :
    Pass.Agrees
      ((pass.answered id ⟨arguments, text, reply.outputs, reply.fieldIndex⟩).inWorld world)
      ((other.answered id ⟨arguments', text, reply.outputs, reply.fieldIndex⟩).inWorld world') :=
  ⟨rfl, congrArg (·.insert id reply.fieldIndex) h.fieldIndexes⟩

/-- From passes that agree, `resume` renders the same text or error and the same outputs, in
whatever worlds the passes are. -/
theorem Prepared.resume_eq_of_agrees {prepared : Prepared ω} {step : String} {inputs : Variables}
    (hfunctional : prepared.Functional) {d : Dialogue (Ending Unit)} {remaining : Nat}
    {pass other : Pass ω} {again again' : ω → ω} (hagrees : pass.Agrees other) :
    (prepared.resume step inputs d remaining pass again).1 =
      (prepared.resume step inputs d remaining other again').1 := by
  induction d generalizing remaining pass other again again' with
  | finished ending =>
    obtain ⟨result, machine⟩ := ending
    rw [resume, resume]
    cases result <;> simp [Rendering.ofPass, hagrees.outputs]
  | asks id scope next ih =>
    cases hsome : prepared.directives[id]? with
    | none =>
      rw [resume_none step inputs id scope next remaining pass again hsome,
        resume_none step inputs id scope next remaining other again' hsome, hagrees.outputs]
      exact ih _ hagrees
    | some found =>
      obtain ⟨o, directive⟩ := found
      obtain ⟨⟨reply, world⟩, hreply⟩ : ∃ r, directive.run (pass.callOf step inputs id o.name
        (o.resolve scope pass.outputs inputs)) pass.world = r := ⟨_, rfl⟩
      obtain ⟨⟨reply', after⟩, hreply'⟩ : ∃ r, directive.run (other.callOf step inputs id o.name
        (o.resolve scope other.outputs inputs)) other.world = r := ⟨_, rfl⟩
      -- The calls are the same, and so are the replies.
      obtain rfl := hagrees.reply_eq (hfunctional id o directive hsome) hreply hreply'
      cases hawaited : directive.awaited with
      | true =>
        cases remaining with
        | zero =>
          rw [resume_awaited_zero step inputs id scope next pass again hsome hawaited,
            resume_awaited_zero step inputs id scope next other again' hsome hawaited,
            hagrees.outputs]
        | succ remaining =>
          rw [resume_awaited_succ step inputs id scope next remaining pass again hsome hawaited
              hreply,
            resume_awaited_succ step inputs id scope next remaining other again' hsome hawaited
              hreply']
          cases reply'.result with
          | error e => rfl
          | ok text => exact ih _ (hagrees.bothAnswered id _ _ text reply' _ _)
      | false =>
        rw [resume_immediate step inputs id scope next remaining pass again hsome hawaited hreply,
          resume_immediate step inputs id scope next remaining other again' hsome hawaited hreply']
        cases reply'.result with
        | error e => rfl
        | ok text => exact ih _ (hagrees.received id reply' world after)

/-- With a functional `registry`, `body` is rendered to the same text or error and the same outputs
in every world. -/
theorem Registry.Functional.fst_render {registry : Registry ω} (hregistry : registry.Functional)
    (step : String) (inputs : Variables) (body : String) (world world' : ω) :
    (render registry step inputs body world).1 = (render registry step inputs body world').1 := by
  unfold render
  cases hprepare : prepare registry inputs body with
  | error e => rfl
  | ok prepared =>
    obtain ⟨d, hd⟩ := prepared.exists_dialogue
    have hfunctional := Prepared.functional_of_prepare hregistry hprepare
    simp only
    rw [Prepared.renderWith_eq_resume hd hfunctional, Prepared.renderWith_eq_resume hd hfunctional]
    exact Prepared.resume_eq_of_agrees hfunctional ⟨rfl, rfl⟩

end Renderings

section Directives

/-- If the directives in `lower` and `upper` are functional, so are those of `upper` laid over
`lower`. -/
theorem Registry.Functional.overlay {lower upper : Registry ω} (hlower : lower.Functional)
    (hupper : ∀ entry ∈ upper, entry.2.Functional) :
    Registry.Functional (Fields.overlay lower upper) := by
  intro name directive hfound
  rw [Fields.value?_overlay, Option.or_eq_some_iff] at hfound
  rcases hfound with hfound | ⟨-, hfound⟩
  · exact hupper _ (Fields.mem_of_value?_collect hfound)
  · exact hlower name directive hfound

/-- The directive `goto` answers as a function of its call, whether it names a step or not. -/
theorem Builtin.functional_goto : (goto : Directive ω).Functional := by
  intro call world world'
  simp only [goto]
  cases call.arguments.firstKey? <;> rfl

/-- The directive `examples` answers as a function of its call if `retriever` does. -/
theorem Builtin.functional_examples {retriever : Option (Retriever ω)}
    (h : ∀ retrieve, retriever = some retrieve → Retriever.Functional retrieve) :
    (examples retriever).Functional := by
  intro call world world'
  cases retriever with
  | none => rfl
  | some retrieve =>
    simp only [examples]
    split
    · rfl
    · -- What is found is the same, and so is what is made of it.
      have hanswer := h retrieve rfl (argumentText call.arguments "query")
        (((call.arguments.value? "count").bind countOf?).getD defaultCount)
        (argumentText call.arguments "source") world world'
      simp only [bind, StateT.bind]
      generalize retrieve _ _ _ world = found at hanswer ⊢
      generalize retrieve _ _ _ world' = found' at hanswer ⊢
      obtain ⟨answer, after⟩ := found
      obtain ⟨answer', after'⟩ := found'
      cases hanswer
      rcases answer with e | texts
      · cases e <;> rfl
      · cases texts <;> rfl

/-- The directives that are always there are functions of their calls if `retriever` is one. -/
theorem Registry.functional_builtins {retriever : Option (Retriever ω)}
    (h : ∀ retrieve, retriever = some retrieve → Retriever.Functional retrieve) :
    (builtins retriever).Functional := by
  have hnone : Registry.Functional ([] : Registry ω) := nofun
  refine hnone.overlay ?_
  simp only [List.forall_mem_cons]
  exact ⟨fun _ _ _ => rfl, fun _ _ _ => rfl, Builtin.functional_examples h, fun _ _ _ => rfl,
    Builtin.functional_goto, fun _ _ _ => rfl, nofun⟩

/-- All directives known under `options` are functional if everything in `options` is. -/
theorem Options.Functional.registry {options : Options ω} (h : options.Functional) :
    (Registry.ofOptions options).Functional := by
  refine ((Registry.functional_builtins h.retriever).overlay ?_).overlay ?_
  · exact List.forall_mem_map.2 h.immediate
  · exact List.forall_mem_map.2 h.awaited

end Directives

end Promptbook
