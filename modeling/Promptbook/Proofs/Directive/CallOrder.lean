import Mathlib.Data.List.FinRange
import Mathlib.Data.List.Perm.Basic
import Promptbook.Proofs.Directive.InPlace

/-!
# The Order of Calls

A rendering in passes makes the calls of the rendering in place, and some of them more than once. A
pass that starts over runs the directives again that run in place, up to the awaited call at which
the pass before has ended and on to the next one. So the log of a rendering in passes can be read
off the log of the rendering in place.

## Main definitions

* `callsMade`, `callsMadeInPlace`: the calls that rendering a body makes, in passes and in place.
* `CallLog.passOrder`: the places of a log in the order in which passes come to them.
* `CallLog.unrolled`: the same order by recursion on the log, from the middle of a pass on.

## Main results

* `CallLog.count_passOrder`: how often each place of a log is come to.
* `Prepared.log_resume`: what a rendering notes that goes on from the middle of a pass.
* `callsMade_eq_passOrder`: the calls of a rendering in passes, exactly and in their order.
-/

namespace Promptbook

open Template (Dialogue Ending)

variable {ω : Type}

/-- The calls that rendering `body` makes, the first one first. -/
def callsMade (registry : Registry ω) (step : String) (inputs : Variables) (body : String)
    (world : ω) : CallLog :=
  (render registry.logged step inputs body (world, [])).2.2

/-- The calls that rendering `body` in place makes, the first one first. -/
def callsMadeInPlace (registry : Registry ω) (step : String) (inputs : Variables) (body : String)
    (world : ω) : CallLog :=
  (renderInPlace registry.logged step inputs body (world, [])).2.2

namespace CallLog

/-- The places of `log` that hold awaited calls, or with `awaited` false those that hold calls in
place. -/
def places (log : CallLog) (awaited : Bool) : List (Fin log.length) :=
  (List.finRange log.length).filter fun i => log[i].awaited == awaited

/-- The places of `log` in the order in which passes come to them: for every awaited call the calls
in place before it, and then the awaited call itself; at last all calls in place. -/
def passOrder (log : CallLog) : List (Fin log.length) :=
  (log.places true).flatMap (fun k => (log.places false).filter (· < k) ++ [k]) ++ log.places false

/-- None of the calls in `log` fails, in whatever world it is made. -/
def Succeeds (registry : Registry ω) (log : CallLog) : Prop :=
  ∀ entry ∈ log, ∀ directive, Fields.value? registry entry.call.name = some directive →
    ∀ world, (directive.run entry.call world).1.result.isOk

/-- The first of the calls in a log that succeeds gets a text. -/
theorem Succeeds.exists_text {registry : Registry ω} {entry : LoggedCall} {rest : CallLog}
    (h : Succeeds registry (entry :: rest)) {directive : Directive ω}
    (hfound : Fields.value? registry entry.call.name = some directive) {world after : ω}
    {reply : Reply} (hreply : directive.run entry.call world = (reply, after)) :
    ∃ text, reply.result = .ok text := by
  have hok := h entry List.mem_cons_self directive hfound world
  rw [hreply] at hok
  cases hresult : reply.result with
  | error e =>
    rw [hresult] at hok
    cases hok
  | ok text => exact ⟨text, rfl⟩

section Order

variable {α β : Type} (awaited : α → Bool)

/-- What passes come to, one after another, when there are still some entries to come and every pass
begins with the entries in `early`: each awaited entry ends a pass and is come to at its end. -/
def unrolled (early : List α) : List α → List α
  | [] => early
  | entry :: rest =>
    if awaited entry then early ++ entry :: unrolled early rest
    else unrolled (early ++ [entry]) rest

theorem unrolled_map (f : α → β) (awaited : β → Bool) (early entries : List α) :
    unrolled awaited (early.map f) (entries.map f) =
      (unrolled (awaited ∘ f) early entries).map f := by
  induction entries generalizing early with
  | nil => rfl
  | cons entry rest ih =>
    simp only [List.map_cons, unrolled, Function.comp_apply]
    split
    · rw [ih, List.map_append, List.map_cons]
    · rw [← List.map_singleton, ← List.map_append, ih]

/-- In ascending `entries`, those before an awaited one `k` are those that are less than `k`. -/
theorem unrolled_of_pairwise [LinearOrder α] {entries : List α} (h : entries.Pairwise (· < ·))
    (early : List α) :
    unrolled awaited early entries =
      (entries.filter awaited).flatMap (fun k =>
        early ++ (entries.filter (!awaited ·)).filter (· < k) ++ [k]) ++
        (early ++ entries.filter (!awaited ·)) := by
  induction entries generalizing early with
  | nil => simp [unrolled]
  | cons entry rest ih =>
    obtain ⟨hfirst, hrest⟩ := List.pairwise_cons.1 h
    rw [unrolled]
    cases hawaited : awaited entry with
    | true =>
      -- Nothing comes before the first entry, so its pass is `early` and the entry itself.
      have hnone : (rest.filter (!awaited ·)).filter (· < entry) = [] := by
        rw [List.filter_eq_nil_iff]
        intro other hother
        simpa using (hfirst other (List.mem_filter.1 hother).1).le
      rw [if_pos rfl, ih hrest, List.filter_cons_of_pos hawaited,
        List.filter_cons_of_neg (by simp [hawaited]), List.flatMap_cons, hnone, List.append_nil,
        List.append_assoc, List.append_assoc, List.singleton_append]
    | false =>
      -- The first entry comes before every awaited one, so all passes begin with it, too.
      have hblocks : (rest.filter awaited).flatMap (fun k =>
          early ++ (entry :: rest.filter (!awaited ·)).filter (· < k) ++ [k]) =
          (rest.filter awaited).flatMap (fun k =>
            early ++ [entry] ++ (rest.filter (!awaited ·)).filter (· < k) ++ [k]) := by
        refine List.flatMap_congr fun k hk => ?_
        have hlt := hfirst k (List.mem_filter.1 hk).1
        rw [List.filter_cons_of_pos (by simpa using hlt), List.append_cons early]
      have hawaits : (entry :: rest).filter awaited = rest.filter awaited :=
        List.filter_cons_of_neg (by simp [hawaited])
      have hplaced : (entry :: rest).filter (!awaited ·) = entry :: rest.filter (!awaited ·) :=
        List.filter_cons_of_pos (by simp [hawaited])
      rw [if_neg (by simp), ih hrest, hawaits, hplaced, hblocks,
        List.append_cons early entry (rest.filter (!awaited ·))]

/-- If `entries` less than `k` are listed for each `k` among `others`, an `entry` is counted once
for each of the `others` that it is less than. -/
theorem count_flatMap_filter_lt [LinearOrder α] (entries others : List α) (entry : α) :
    (others.flatMap fun k => entries.filter (· < k)).count entry =
      entries.count entry * others.countP (entry < ·) := by
  induction others with
  | nil => simp
  | cons k others ih =>
    rw [List.flatMap_cons, List.count_append, ih, List.countP_cons]
    by_cases hlt : entry < k
    · rw [List.count_filter (by simpa using hlt), if_pos (by simpa using hlt), Nat.mul_add_one,
        Nat.add_comm]
    · have hnone : (entries.filter (· < k)).count entry = 0 :=
        List.count_eq_zero.2 fun hmem => hlt (by simpa using (List.mem_filter.1 hmem).2)
      rw [hnone, if_neg (by simpa using hlt), Nat.zero_add, Nat.add_zero]

end Order

/-- What passes come to in `log` is what stands at its places, in the order of passes. -/
theorem unrolled_eq_passOrder (log : CallLog) :
    unrolled LoggedCall.awaited [] log = log.passOrder.map log.get := by
  have hmap := unrolled_map log.get LoggedCall.awaited [] (List.finRange log.length)
  rw [List.map_nil, List.map_get_finRange] at hmap
  rw [hmap, unrolled_of_pairwise _ (List.pairwise_lt_finRange _)]
  simp [passOrder, places, Function.comp_def]

/-- A place `i` with an awaited call is come to once, and any other one once and then once more for
every awaited call behind it. -/
theorem count_passOrder (log : CallLog) (i : Fin log.length) :
    log.passOrder.count i =
      if log[i].awaited then 1 else 1 + (log.places true).countP (i < ·) := by
  have hmem : ∀ awaited, i ∈ log.places awaited ↔ log[i].awaited = awaited := by
    intro awaited
    simp [places]
  have hcount : ∀ awaited, (log.places awaited).count i =
      if log[i].awaited = awaited then 1 else 0 := by
    intro awaited
    have hnodup : (log.places awaited).Nodup := (List.nodup_finRange _).filter _
    rw [hnodup.count]
    simp only [hmem]
  -- Each awaited call stands once at the end of its pass, and the calls in place stand before it.
  have hperm := List.flatMap_append_perm (log.places true)
    (fun k => (log.places false).filter (· < k)) (fun k => [k])
  rw [passOrder, List.count_append, ← hperm.count_eq, List.count_append, count_flatMap_filter_lt,
    List.flatMap_singleton', hcount, hcount]
  cases log[i].awaited with
  | true => simp
  | false => simp [Nat.add_comm]

end CallLog

/-- If what a `directive` replies is a function of its calls, this is still so when they are
noted. -/
theorem Directive.Functional.logged {directive : Directive ω} (h : directive.Functional) :
    directive.logged.Functional :=
  fun call world world' => h call world.1 world'.1

namespace Prepared

variable {prepared : Prepared ω} {step : String} {inputs : Variables}

theorem Functional.logged (h : prepared.Functional) : prepared.logged.Functional := by
  intro id o directive hsome
  rw [directives_logged] at hsome
  obtain ⟨⟨o', found⟩, hfound, heq⟩ := Option.map_eq_some_iff.1 hsome
  cases heq
  exact (h id _ found hfound).logged

section Calls

variable (id : Nat) (scope : Path → Option Value)
  (next : Option String × Variables → Dialogue (Ending Unit)) (pass : Pass ω) {o : Occurrence}
  {directive : Directive ω} {reply : Reply} {world : ω}

/-- The number `id` makes no call in place if there is no directive for it. -/
theorem callsInPlace_none (hnone : prepared.directives[id]? = none) :
    prepared.callsInPlace step inputs (.asks id scope next) pass =
      prepared.callsInPlace step inputs (next (none, pass.outputs)) pass := by
  rw [callsInPlace, hnone]

/-- The first call in place, and the calls that follow unless it fails. -/
theorem callsInPlace_some (hsome : prepared.directives[id]? = some (o, directive))
    (hreply : directive.run (pass.callOf step inputs id o.name
      (o.resolve scope pass.outputs inputs)) pass.world = (reply, world)) :
    prepared.callsInPlace step inputs (.asks id scope next) pass =
      ⟨directive.awaited,
        pass.callOf step inputs id o.name (o.resolve scope pass.outputs inputs)⟩ ::
        match reply.result with
        | .error _ => []
        | .ok text =>
          prepared.callsInPlace step inputs (next (text, reply.outputs))
            (pass.received id reply world) := by
  cases hresult : reply.result with
  | error e => simp only [callsInPlace, hsome, hreply, hresult]
  | ok text => simp only [callsInPlace, hsome, hreply, hresult]

end Calls

/-- What a rendering notes that goes on from the middle of a pass, which has come there with the
entries in `early`: this pass and the later ones unroll the calls that are made in place from there
on. A pass that starts over notes `early` again when it comes to this place. -/
theorem log_resume (hfunctional : prepared.Functional) {registry : Registry ω}
    (hfound : ∀ (id : Nat) (o : Occurrence) (directive : Directive ω),
      prepared.directives[id]? = some (o, directive) →
        Fields.value? registry o.name = some directive)
    {d : Dialogue (Ending Unit)} {remaining : Nat} {pass other : Pass ω} {noted early : CallLog}
    {again : ω × CallLog → ω × CallLog} (hagrees : pass.Agrees other)
    (hagain : ∀ world, (again world).2 = world.2 ++ early)
    (hcalls : (prepared.callsInPlace step inputs d other).countP LoggedCall.awaited ≤ remaining)
    (hsucceed : CallLog.Succeeds registry (prepared.callsInPlace step inputs d other)) :
    (prepared.logged.resume step inputs d remaining (pass.withLog (noted ++ early)) again).2.2 =
      noted ++ CallLog.unrolled LoggedCall.awaited early
        (prepared.callsInPlace step inputs d other) := by
  induction d generalizing remaining pass other noted early again with
  | finished ending =>
    obtain ⟨result, machine⟩ := ending
    cases result <;> rfl
  | asks id scope next ih =>
    have hlogged := prepared.directives_logged id
    cases hsome : prepared.directives[id]? with
    | none =>
      rw [hsome] at hlogged
      rw [callsInPlace_none id scope next other hsome] at hcalls hsucceed ⊢
      rw [resume_none step inputs id scope next remaining _ again hlogged, Pass.outputs_withLog,
        hagrees.outputs]
      exact ih _ hagrees hagain hcalls hsucceed
    | some found =>
      obtain ⟨o, directive⟩ := found
      rw [hsome] at hlogged
      -- The call is the one that is made in place, and so is the reply, which is no failure.
      have hcall : pass.callOf step inputs id o.name (o.resolve scope pass.outputs inputs) =
          other.callOf step inputs id o.name (o.resolve scope other.outputs inputs) := by
        rw [hagrees.callOf_eq, hagrees.outputs]
      obtain ⟨⟨reply, world⟩, hreply⟩ : ∃ r, directive.run (pass.callOf step inputs id o.name
        (o.resolve scope pass.outputs inputs)) pass.world = r := ⟨_, rfl⟩
      obtain ⟨⟨reply', after⟩, hreply'⟩ : ∃ r, directive.run (other.callOf step inputs id o.name
        (o.resolve scope other.outputs inputs)) other.world = r := ⟨_, rfl⟩
      obtain rfl := hagrees.reply_eq (hfunctional id o directive hsome) hreply hreply'
      have hnoted := directive.run_logged (noted ++ early) hreply
      rw [callsInPlace_some id scope next other hsome hreply'] at hcalls hsucceed ⊢
      obtain ⟨text, htext⟩ := hsucceed.exists_text (hfound id o directive hsome) hreply'
      have hrest := fun entry hmem => hsucceed entry (List.mem_cons_of_mem _ hmem)
      simp only [htext, List.countP_cons] at hcalls hrest ⊢
      rw [← hcall]
      obtain ⟨entry, hentry⟩ : ∃ entry : LoggedCall, ⟨directive.awaited,
        pass.callOf step inputs id o.name (o.resolve scope pass.outputs inputs)⟩ = entry := ⟨_, rfl⟩
      rw [hentry] at hnoted ⊢
      cases hawaited : directive.awaited with
      | true =>
        -- The call ends the pass, and the next one comes back to it with the entries in `early`.
        rw [hawaited, if_pos rfl] at hcalls
        obtain ⟨remaining, rfl⟩ := Nat.exists_eq_add_of_le' (Nat.le_of_add_left_le hcalls)
        rw [resume_awaited_succ step inputs id scope next remaining _ again hlogged hawaited
          hnoted, htext, CallLog.unrolled, if_pos (by rw [← hentry, hawaited])]
        have hback : again (world, noted ++ early ++ [entry]) =
            ((again (world, noted ++ early ++ [entry])).1, noted ++ early ++ [entry] ++ early) :=
          Prod.ext rfl (hagain _)
        have hlater := @ih (text, reply'.outputs) _ _ _ (noted ++ early ++ [entry]) _ _
          (hagrees.answered id (o.resolve scope pass.outputs inputs) text reply'
            (again (world, noted ++ early ++ [entry])).1 after) hagain
          (Nat.le_of_succ_le_succ hcalls) hrest
        rw [hback]
        refine hlater.trans ?_
        rw [List.append_assoc, List.append_assoc, List.singleton_append]
      | false =>
        -- The next pass comes behind the call with one more entry.
        rw [hawaited, if_neg Bool.false_ne_true, Nat.add_zero] at hcalls
        rw [resume_immediate step inputs id scope next remaining _ again hlogged hawaited
          hnoted, htext, CallLog.unrolled, if_neg (by rw [← hentry, hawaited]; exact nofun)]
        have hfurther : ∀ w, (directive.logged.run (pass.callOf step inputs id o.name
            (o.resolve scope pass.outputs inputs)) (again w)).2.2 = w.2 ++ (early ++ [entry]) := by
          intro w
          rw [← List.append_assoc, ← hagain w, ← hentry]
          rfl
        have hlater := @ih (text, reply'.outputs) _ _ _ noted _ _
          (hagrees.received id reply' world after) hfurther hcalls hrest
        rw [← List.append_assoc] at hlater
        exact hlater

end Prepared

/-- If what directives reply is a function of their calls, rendering in place does not make more
awaited calls than are allowed, and none of its calls fails, then rendering in passes makes the
calls of rendering in place in the order of passes: for every awaited call the calls in place before
it, then the awaited call, and at last all calls in place. So every awaited call is made once, and a
call in place once and then once more for every awaited call behind it. -/
theorem callsMade_eq_passOrder (registry : Registry ω) (hregistry : registry.Functional)
    (step : String) (inputs : Variables) (body : String) (world : ω)
    (hcalls : awaitedInPlace registry step inputs body world ≤ maxAwaitedCalls)
    (hsucceed : (callsMadeInPlace registry step inputs body world).Succeeds registry) :
    let log := callsMadeInPlace registry step inputs body world
    callsMade registry step inputs body world = log.passOrder.map log.get ∧
      ∀ i, log.passOrder.count i =
        if log[i].awaited then 1 else 1 + (log.places true).countP (i < ·) := by
  refine ⟨?_, CallLog.count_passOrder _⟩
  rw [← CallLog.unrolled_eq_passOrder]
  cases hprepare : prepare registry inputs body with
  | error e =>
    -- A body that cannot be read makes no calls in either way.
    have hlogged : prepare registry.logged inputs body = .error e := by
      rw [prepare_logged, hprepare]
      rfl
    simp only [callsMade, callsMadeInPlace, render, renderInPlace, hlogged]
    rfl
  | ok prepared =>
    obtain ⟨d, hd⟩ := prepared.exists_dialogue
    have hlogged : prepare registry.logged inputs body = .ok prepared.logged := by
      rw [prepare_logged, hprepare]
      rfl
    have hfunctional := Prepared.functional_of_prepare hregistry hprepare
    have hinPlace : callsMadeInPlace registry step inputs body world =
        prepared.callsInPlace step inputs d (.start world) := by
      rw [callsMadeInPlace, renderInPlace_logged hprepare hd]
      rfl
    have hcount : (prepared.callsInPlace step inputs d (.start world)).countP LoggedCall.awaited ≤
        maxAwaitedCalls := by
      rw [← hinPlace]
      exact hcalls
    rw [hinPlace] at hsucceed ⊢
    -- The nodes of the template are the same with a log, and so is the dialogue.
    have hd' : prepared.logged.IsDialogue d := hd
    unfold callsMade render
    rw [hlogged]
    simp only
    rw [Prepared.renderWith_eq_resume hd' hfunctional.logged]
    have hagrees : (Pass.start world).Agrees (.start world) := ⟨rfl, rfl⟩
    rw [← List.nil_append (CallLog.unrolled _ _ _), ← Prepared.log_resume hfunctional
      (fun _ _ _ => Prepared.directive_of_prepare hprepare) hagrees
      (fun w => (List.append_nil w.2).symm) hcount hsucceed]
    rfl

/-- A body with a call in place, and then a loop with an awaited call and another call in place. -/
def interleavedBody : String :=
  "{% count %}{% for i in (1..2) %}{% ask v=i %}{% count %}{% endfor %}"

/-- The directive of `numbering` under two names, awaited and in place. -/
def numberingTwice : Registry Nat :=
  [("ask", numbering), ("count", { numbering with awaited := false })]

/-- Both directives of `numberingTwice` reply as `numbering` does. -/
theorem run_numberingTwice {name : String} {directive : Directive Nat}
    (h : Fields.value? numberingTwice name = some directive) : directive.run = numbering.run := by
  have hmem := Fields.mem_of_value? h
  simp only [numberingTwice, List.mem_cons, List.not_mem_nil, or_false, Prod.mk.injEq] at hmem
  rcases hmem with ⟨-, rfl⟩ | ⟨-, rfl⟩ <;> rfl

/-- In `interleavedBody`, each awaited call is made once, and the calls in place are made three
times, twice and once. -/
theorem callsMade_eq_passOrder_interleaved :
    numberingTwice.Functional ∧
      awaitedInPlace numberingTwice "greeting" [] interleavedBody 0 ≤ maxAwaitedCalls ∧
      (callsMadeInPlace numberingTwice "greeting" [] interleavedBody 0).Succeeds numberingTwice ∧
      callsMade numberingTwice "greeting" [] interleavedBody 0 =
        (callsMadeInPlace numberingTwice "greeting" [] interleavedBody 0).passOrder.map
          (callsMadeInPlace numberingTwice "greeting" [] interleavedBody 0).get ∧
      (callsMadeInPlace numberingTwice "greeting" [] interleavedBody 0).passOrder.map Fin.val =
        [0, 1, 0, 2, 3, 0, 2, 4] := by
  have hfunctional : numberingTwice.Functional := by
    intro name directive hfound call world world'
    rw [run_numberingTwice hfound]
    rfl
  have hcalls : awaitedInPlace numberingTwice "greeting" [] interleavedBody 0 ≤
      maxAwaitedCalls := by
    decide +kernel
  -- No call of `numbering` fails, whatever it is called with.
  have hsucceed :
      (callsMadeInPlace numberingTwice "greeting" [] interleavedBody 0).Succeeds
        numberingTwice := by
    intro entry _ directive hfound world
    rw [run_numberingTwice hfound]
    rfl
  have hmade :=
    callsMade_eq_passOrder numberingTwice hfunctional "greeting" [] interleavedBody 0 hcalls
      hsucceed
  exact ⟨hfunctional, hcalls, hsucceed, hmade.1, by decide +kernel⟩

end Promptbook
