import Promptbook.Proofs.Directive.Pass

/-!
# Replaying and Resuming

A rendering in passes starts over after every awaited call. If what a directive replies depends on
its call only, this comes to the same as going on where the pass ended: every later pass, given the
replies that have been kept, gets to that place again and in the same state. Only the world differs,
since the directives in between that run in place have been called once more.

* `Directive.Functional` — what a directive replies does not depend on the world.
* `Prepared.resume` — a rendering that goes on behind an awaited call instead of starting over.
* `Prepared.Leads` — with the kept replies, and with any that are kept later, a pass gets to a
  certain rest of the dialogue in a certain state. This is the invariant over the awaited calls.
* `Prepared.renderWith_eq_resume` — rendering in passes is resuming.
-/

namespace Promptbook

open Template (Dialogue Ending)

variable {ω : Type}

/-- What `directive` replies is a function of its call: it does not depend on the world. -/
def Directive.Functional (directive : Directive ω) : Prop :=
  ∀ call world world', (directive.run call world).1 = (directive.run call world').1

/-- Every directive that stands in the body is a function of its call. -/
def Prepared.Functional (prepared : Prepared ω) : Prop :=
  ∀ (id : Nat) (o : Occurrence) (directive : Directive ω),
    prepared.directives[id]? = some (o, directive) → directive.Functional

namespace Prepared

variable (prepared : Prepared ω) (step : String) (inputs : Variables)

/-- Go on with a dialogue from a state of a pass, past awaited calls, of which `remaining` may still
be made. A pass that starts over in some world gets back to this state in the world that `again`
makes of it. -/
def resume : Dialogue (Ending Unit) → (remaining : Nat) → Pass ω → (again : ω → ω) → Rendering × ω
  | .finished ending, _, pass, _ => Rendering.ofPass (.ok ending pass)
  | .asks id scope next, remaining, pass, again =>
    match prepared.directives[id]? with
    | none => resume (next (none, pass.outputs)) remaining pass again
    | some (o, directive) =>
      let call := pass.callOf step inputs id o.name (o.resolve scope pass.outputs inputs)
      let (reply, world) := directive.run call pass.world
      if directive.awaited then
        match remaining with
        | 0 => (⟨pass.outputs, .error tooManyCalls⟩, pass.world)
        | remaining + 1 =>
          match reply.result with
          | .error e => (⟨reply.outputs, .error e⟩, world)
          | .ok text =>
            let answer : Answer := ⟨call.arguments, text, reply.outputs, reply.fieldIndex⟩
            resume (next (text, reply.outputs)) remaining
              ((pass.answered id answer).inWorld (again world)) again
      else
        match reply.result with
        | .error e => (⟨reply.outputs, .error e⟩, world)
        | .ok text =>
          resume (next (text, reply.outputs)) remaining (pass.received id reply world)
            fun w => (directive.run call (again w)).2

section Equations

variable {prepared} (id : Nat) (scope : Path → Option Value)
  (next : Option String × Variables → Dialogue (Ending Unit)) (remaining : Nat) (pass : Pass ω)
  (again : ω → ω) {o : Occurrence} {directive : Directive ω} {reply : Reply} {world : ω}

/-- Resuming goes on as before where no directive stands under the number `id`. -/
theorem resume_none (hnone : prepared.directives[id]? = none) :
    prepared.resume step inputs (.asks id scope next) remaining pass again =
      prepared.resume step inputs (next (none, pass.outputs)) remaining pass again := by
  rw [resume, hnone]

/-- Resuming ends at an awaited directive when no call of one may be made any more. -/
theorem resume_awaited_zero (hsome : prepared.directives[id]? = some (o, directive))
    (hawaited : directive.awaited = true) :
    prepared.resume step inputs (.asks id scope next) 0 pass again =
      (⟨pass.outputs, .error tooManyCalls⟩, pass.world) := by
  simp only [resume, hsome, hawaited, if_true]
  rfl

/-- Resuming makes the call of an awaited directive, from the state `pass`, and goes on with its
`reply` unless that is a failure. -/
theorem resume_awaited_succ (hsome : prepared.directives[id]? = some (o, directive))
    (hawaited : directive.awaited = true)
    (hreply : directive.run (pass.callOf step inputs id o.name
      (o.resolve scope pass.outputs inputs)) pass.world = (reply, world)) :
    prepared.resume step inputs (.asks id scope next) (remaining + 1) pass again =
      match reply.result with
      | .error e => (⟨reply.outputs, .error e⟩, world)
      | .ok text =>
        prepared.resume step inputs (next (text, reply.outputs)) remaining
          ((pass.answered id ⟨o.resolve scope pass.outputs inputs, text, reply.outputs,
            reply.fieldIndex⟩).inWorld (again world)) again := by
  simp only [resume, hsome, hawaited, hreply, if_true]
  rfl

/-- Resuming runs a directive in place that is not awaited, and goes on with its `reply` unless that
is a failure. -/
theorem resume_immediate (hsome : prepared.directives[id]? = some (o, directive))
    (hawaited : directive.awaited = false)
    (hreply : directive.run (pass.callOf step inputs id o.name
      (o.resolve scope pass.outputs inputs)) pass.world = (reply, world)) :
    prepared.resume step inputs (.asks id scope next) remaining pass again =
      match reply.result with
      | .error e => (⟨reply.outputs, .error e⟩, world)
      | .ok text =>
        prepared.resume step inputs (next (text, reply.outputs)) remaining
          (pass.received id reply world)
          fun w => (directive.run (pass.callOf step inputs id o.name
            (o.resolve scope pass.outputs inputs)) (again w)).2 := by
  simp only [resume, hsome, hawaited, hreply]
  rfl

end Equations

/-- With the kept replies, a pass gets from `root` to the rest `d` of the dialogue in the state
`pass`, in the world that `again` makes of the one in which it started. `comes` speaks about all
replies that agree with the kept ones where awaited directives have been met on the way, since
replies that are kept later must not lead the pass astray; `fresh` says that no others have been
kept. -/
structure Leads (root d : Dialogue (Ending Unit)) (answers : Answers) (pass : Pass ω)
    (again : ω → ω) : Prop where
  /-- Replies have been kept for the visits on the way only. -/
  fresh : ∀ id visit, pass.visits.getD id 0 ≤ visit → answers[(id, visit)]? = none
  /-- Every pass with the same replies for the visits on the way gets there, whatever other replies
  `answers'` has. -/
  comes : ∀ answers' : Answers,
    (∀ id visit, visit < pass.visits.getD id 0 → answers'[(id, visit)]? = answers[(id, visit)]?) →
    ∀ world, (root.hold (Pass.invoke prepared step inputs answers')).run (.start world) =
      (d.hold (Pass.invoke prepared step inputs answers')).run (pass.inWorld (again world))

namespace Leads

variable {prepared step inputs} {root d : Dialogue (Ending Unit)} {answers : Answers}
  {pass : Pass ω} {again : ω → ω} {id : Nat} {scope : Path → Option Value}
  {next : Option String × Variables → Dialogue (Ending Unit)} {o : Occurrence}
  {directive : Directive ω}

/-- A pass starts at the `root` of the dialogue. -/
theorem start (world : ω) : prepared.Leads step inputs root root ∅ (.start world) fun w => w where
  fresh id visit _ := by simp
  comes answers' _ world' := rfl

/-- Where no directive stands under the number `id`, a pass goes on. -/
theorem skip (hleads : prepared.Leads step inputs root (.asks id scope next) answers pass again)
    (hnone : prepared.directives[id]? = none) :
    prepared.Leads step inputs root (next (none, pass.outputs)) answers pass again where
  fresh := hleads.fresh
  comes answers' hagree world := by
    rw [hleads.comes answers' hagree world, Dialogue.run_hold_asks,
      Pass.run_invoke_of_none _ _ _ _ _ _ _ hnone]
    rfl

/-- A functional directive that runs in place is run again in every pass, and gives the same
`reply`. -/
theorem immediate
    (hleads : prepared.Leads step inputs root (.asks id scope next) answers pass again)
    (hsome : prepared.directives[id]? = some (o, directive)) (hawaited : directive.awaited = false)
    (hfunctional : directive.Functional) {call : Call} {reply : Reply} {world : ω}
    {text : Option String}
    (hcall : call = pass.callOf step inputs id o.name (o.resolve scope pass.outputs inputs))
    (hreply : directive.run call pass.world = (reply, world)) (htext : reply.result = .ok text) :
    prepared.Leads step inputs root (next (text, reply.outputs)) answers
      (pass.received id reply world) (fun w => (directive.run call (again w)).2) where
  fresh := hleads.fresh
  comes answers' hagree w := by
    subst hcall
    -- The reply is the same in whatever world the pass comes here.
    have hsame : directive.run _ (again w) = (reply, (directive.run _ (again w)).2) :=
      Prod.ext (by rw [hfunctional _ (again w) pass.world, hreply]) rfl
    rw [hleads.comes answers' hagree w, Dialogue.run_hold_asks,
      Pass.run_invoke_of_immediate _ _ _ _ _ _ _ hsome hawaited, Pass.outputs_inWorld,
      Pass.run_run (pass.inWorld (again w)) _ _ _ hsame, htext]
    rfl

/-- An awaited directive is answered with `answer` in every later pass, once this has been kept for
arguments that are alike to those of the call. -/
theorem awaited (hleads : prepared.Leads step inputs root (.asks id scope next) answers pass again)
    (hsome : prepared.directives[id]? = some (o, directive)) (hawaited : directive.awaited = true)
    (answer : Answer)
    (harguments : answer.arguments.alike (o.resolve scope pass.outputs inputs) = true) :
    prepared.Leads step inputs root (next (answer.text, answer.outputs))
      (answers.insert (id, pass.visits.getD id 0) answer) (pass.answered id answer) again where
  fresh i visit hvisit := by
    simp only [Pass.answered, Pass.met, Std.HashMap.getD_insert, beq_iff_eq] at hvisit
    -- The visit that has got its reply is no longer one to come.
    have hother : ¬ (id, pass.visits.getD id 0) = (i, visit) := by
      rintro ⟨⟩
      simp only [if_true] at hvisit
      omega
    rw [Std.HashMap.getElem?_insert, if_neg (by simpa using hother)]
    apply hleads.fresh
    split at hvisit
    · next h => subst h; omega
    · exact hvisit
  comes answers' hagree w := by
    have hvisits : ∀ i, (pass.answered id answer).visits.getD i 0 =
        if id = i then pass.visits.getD id 0 + 1 else pass.visits.getD i 0 := by
      intro i
      simp only [Pass.answered, Pass.met, Std.HashMap.getD_insert, beq_iff_eq]
    -- The new reply does not stand where an earlier visit looks one up.
    have hbefore : ∀ i visit, visit < pass.visits.getD i 0 →
        answers'[(i, visit)]? = answers[(i, visit)]? := by
      intro i visit hvisit
      have hlt : visit < (pass.answered id answer).visits.getD i 0 := by
        rw [hvisits]
        split
        · next h => subst h; omega
        · exact hvisit
      have hother : ¬ (id, pass.visits.getD id 0) = (i, visit) := by
        rintro ⟨⟩
        omega
      rw [hagree i visit hlt, Std.HashMap.getElem?_insert, if_neg (by simpa using hother)]
    -- At this visit the pass finds the new reply.
    have hanswer : answers'[(id, pass.visits.getD id 0)]? = some answer := by
      rw [hagree _ _ (by rw [hvisits, if_pos rfl]; omega), Std.HashMap.getElem?_insert_self]
    rw [hleads.comes answers' hbefore w, Dialogue.run_hold_asks,
      Pass.run_invoke_of_awaited _ _ _ _ _ _ _ hsome hawaited, Pass.outputs_inWorld,
      Pass.run_replay_of_answer (pass.inWorld (again w)) _ _ hanswer harguments]
    rfl

/-- Where a pass gets to does not depend on the world that is noted there. -/
theorem inWorld (hleads : prepared.Leads step inputs root d answers pass again) (world : ω) :
    prepared.Leads step inputs root d answers (pass.inWorld world) again :=
  ⟨hleads.fresh, hleads.comes⟩

/-- In particular, the pass with exactly the kept replies gets there. -/
theorem run_eq {world : ω} (hleads : prepared.Leads step inputs root d answers pass again)
    (hworld : again world = pass.world) :
    (root.hold (Pass.invoke prepared step inputs answers)).run (.start world) =
      (d.hold (Pass.invoke prepared step inputs answers)).run pass := by
  rw [hleads.comes answers (fun _ _ _ => rfl) world, hworld]
  rfl

end Leads

variable {prepared step inputs} {root : Dialogue (Ending Unit)}

/-- Rendering in passes, from where the kept replies lead to `d`, is resuming at `d`. -/
theorem renderWith_eq_resume_of_leads (hroot : prepared.IsDialogue root)
    (hfunctional : prepared.Functional) {d : Dialogue (Ending Unit)} {remaining : Nat}
    {answers : Answers} {pass : Pass ω} {again : ω → ω} {world : ω}
    (hleads : prepared.Leads step inputs root d answers pass again)
    (hworld : again world = pass.world) :
    prepared.renderWith step inputs remaining answers world =
      prepared.resume step inputs d remaining pass again := by
  -- The dialogue gets shorter with every call, whether it is awaited or not.
  induction d generalizing remaining answers pass again world with
  | finished ending =>
    -- The pass gets to the end, so it is the last one.
    have hrun := hleads.run_eq hworld
    rw [renderWith_eq_ofPass hroot, hrun]
    · rfl
    · intro s pass' h
      rw [hrun] at h
      cases h
  | asks id scope next ih =>
    have hrun := hleads.run_eq hworld
    rw [Dialogue.run_hold_asks] at hrun
    cases hsome : prepared.directives[id]? with
    | none =>
      rw [resume_none step inputs id scope next remaining pass again hsome]
      exact ih _ (hleads.skip hsome) hworld
    | some found =>
      obtain ⟨o, directive⟩ := found
      obtain ⟨⟨reply, after⟩, hreply⟩ : ∃ r, directive.run (pass.callOf step inputs id o.name
        (o.resolve scope pass.outputs inputs)) pass.world = r := ⟨_, rfl⟩
      cases hawaited : directive.awaited with
      | true =>
        -- No reply has been kept for this visit, so the pass ends here.
        rw [Pass.run_invoke_of_awaited _ _ _ _ _ _ _ hsome hawaited,
          Pass.run_replay_of_unlike _ _ _ (by simp [hleads.fresh id _ (Nat.le_refl _)])] at hrun
        cases remaining with
        | zero =>
          rw [renderWith_of_awaiting_zero hroot step inputs hrun,
            resume_awaited_zero step inputs id scope next pass again hsome hawaited]
          rfl
        | succ remaining =>
          rw [renderWith_of_awaiting hroot step inputs remaining hrun hsome,
            resume_awaited_succ step inputs id scope next remaining pass again hsome hawaited
              hreply]
          -- The call is made in the state in which the pass has ended.
          have hafter : Suspension.run ⟨id, pass.visits.getD id 0,
              o.resolve scope pass.outputs inputs, pass.fieldIndexes.getD id 0⟩ directive o.name
              step inputs (pass.met id).outputs (pass.met id).world = (reply, after) := hreply
          simp only [hafter]
          cases hresult : reply.result with
          | error e => rfl
          | ok text =>
            -- The next pass gets past this call, since its reply has been kept.
            have hkept := hleads.awaited hsome hawaited
              ⟨o.resolve scope pass.outputs inputs, text, reply.outputs, reply.fieldIndex⟩
              (Arguments.alike_refl _)
            exact ih _ (hkept.inWorld (again after)) rfl
      | false =>
        rw [Pass.run_invoke_of_immediate _ _ _ _ _ _ _ hsome hawaited,
          Pass.run_run _ _ _ _ hreply] at hrun
        rw [resume_immediate step inputs id scope next remaining pass again hsome hawaited hreply]
        cases hresult : reply.result with
        | error e =>
          -- The pass ends with the failure, and no other one follows.
          rw [hresult] at hrun
          rw [renderWith_eq_ofPass hroot, hrun]
          · rfl
          · intro s pass' h
            rw [hrun] at h
            cases h
        | ok text =>
          have hpast := hleads.immediate hsome hawaited (hfunctional _ _ _ hsome) rfl hreply hresult
          refine ih _ hpast ?_
          rw [hworld, hreply]
          rfl

/-- If all directives are functions of their calls, rendering in passes is resuming behind every
awaited call. -/
theorem renderWith_eq_resume (hroot : prepared.IsDialogue root) (hfunctional : prepared.Functional)
    (remaining : Nat) (world : ω) :
    prepared.renderWith step inputs remaining ∅ world =
      prepared.resume step inputs root remaining (.start world) fun w => w :=
  renderWith_eq_resume_of_leads hroot hfunctional (Leads.start world) rfl

end Prepared

end Promptbook
