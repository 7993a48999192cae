import Promptbook.Proofs.Directive.AwaitLimit

/-!
# Soundness of Replies that are Kept

A reply that has been kept is put in where it was asked for, and nowhere else. Directives may reply
differently to the same call, so an earlier pass need not have gone the way of the last one, and
what it has left in the table of replies is no proof of anything. What counts is that a reply is
kept together with its arguments, and under a visit that is counted for each occurrence by itself.

Arguments are compared as JSON values are (`Arguments.alike`): a reply for `0.0` is put in where the
directive now has `-0.0`.

## Main definitions

* `Prepared.exchanges`: what the directives of a pass are asked and what they answer, call by call.
* `Round.PutIn`: an exchange that puts in the reply of a round.
* `Prepared.RepliedBy`: an exchange that puts in the reply of the last round at its visit.
* `Prepared.Accounts`: the rounds account for the last pass.

## Main results

* `Pass.visits_of_links`: a pass counts the visits of an awaited directive, whatever other
  directives are called in between.
* `render_accounts`: the text of a rendering comes from a pass for which its rounds account.
-/

namespace Promptbook

open Template (Exchange Machine)

variable {ω : Type}

/-- What the directives are asked and what they answer, call by call, during a pass that starts in
`world` with the kept replies `answers`. -/
def Prepared.exchanges (prepared : Prepared ω) (step : String) (inputs : Variables)
    (answers : Answers) (world : ω) : List (Exchange (Pass ω)) :=
  Template.exchanges prepared.globals (Pass.invoke prepared step inputs answers) prepared.nodes
    (.start world)

namespace Pass

variable {prepared : Prepared ω} {step : String} {inputs : Variables} {answers : Answers}
  {o : Occurrence} {directive : Directive ω}

/-- A call of the directive `id` counts as a visit of `other` if the two are the same, and as none
if they are not. -/
theorem visits_of_invoke {id other : Nat} {scope : Path → Option Value} {pass after : Pass ω}
    {answer : Option String × Variables}
    (hcall : (Pass.invoke prepared step inputs answers id scope).run pass = .ok answer after)
    (hsome : prepared.directives[other]? = some (o, directive))
    (hawaited : directive.awaited = true) :
    after.visits.getD other 0 = pass.visits.getD other 0 + if id = other then 1 else 0 := by
  have hinvokes := Pass.invokes prepared step inputs answers id scope pass
  rw [hcall] at hinvokes
  cases hinvokes with
  | nothing hnone =>
    have hne : id ≠ other := by
      rintro rfl
      rw [hnone] at hsome
      cases hsome
    rw [if_neg hne, Nat.add_zero]
  | ran hfound himmediate =>
    -- A directive that runs in place is another one.
    have hne : id ≠ other := by
      rintro rfl
      rw [hfound] at hsome
      cases hsome
      rw [hawaited] at himmediate
      cases himmediate
    rw [if_neg hne, Nat.add_zero]
    rfl
  | replayed =>
    simp only [answered, met, Std.HashMap.getD_insert, beq_iff_eq]
    by_cases heq : id = other
    · rw [if_pos heq, if_pos heq, heq]
    · rw [if_neg heq, if_neg heq, Nat.add_zero]

/-- When the calls of a pass have led from `first` to `last`, an awaited directive `id` has been
visited as often as it has been called, whatever other directives were called in between. -/
theorem visits_of_links {id : Nat} {first last : Pass ω} {exchanges : List (Exchange (Pass ω))}
    (h : Exchange.Links (Pass.invoke prepared step inputs answers) first exchanges last)
    (hsome : prepared.directives[id]? = some (o, directive))
    (hawaited : directive.awaited = true) :
    last.visits.getD id 0 = first.visits.getD id 0 + exchanges.countP (·.id == id) := by
  induction h with
  | nil => rfl
  | @cons called scope pass after last answer rest hcall _ ih =>
    have hstep := visits_of_invoke hcall hsome hawaited
    rw [List.countP_cons, ih, hstep]
    simp only [beq_iff_eq]
    omega

end Pass

/-- At an `exchange`, the reply of `round` is put in, which was asked for at the same `visit` of the
same directive and for like arguments. -/
structure Round.PutIn (round : Round ω) (inputs : Variables) (o : Occurrence)
    (directive : Directive ω) (visit : Nat) (exchange : Exchange (Pass ω)) : Prop where
  /-- The round was made at the same occurrence. -/
  id : round.suspension.occurrence = exchange.id
  /-- The round was made at the same `visit`. -/
  visit : round.suspension.visit = visit
  /-- The call of the round was one of the directive of this occurrence. -/
  own : round.occurrence = o ∧ round.directive = directive
  /-- The call had arguments that are alike to those that the occurrence has now. -/
  arguments : round.suspension.arguments.alike
    (o.resolve exchange.scope exchange.before.outputs inputs) = true
  /-- The text that is put in is the one that the directive replied. -/
  text : round.reply.result = .ok exchange.answer.1
  /-- The variables that are published are the outputs that the directive replied. -/
  published : exchange.answer.2 = round.reply.outputs
  /-- The outputs of the pass become those that the directive replied. -/
  outputs : exchange.after.outputs = round.reply.outputs
  /-- The position of the next field becomes the one that the directive replied, and nothing changes
  for other occurrences. -/
  fieldIndexes : exchange.after.fieldIndexes =
    exchange.before.fieldIndexes.insert exchange.id round.reply.fieldIndex

/-- At an `exchange`, the reply of one of the `rounds` is put in: the last one at this `visit`,
which was made with the replies that the rounds `early` before it have left. -/
def Prepared.RepliedBy (prepared : Prepared ω) (step : String) (inputs : Variables) (world : ω)
    (rounds : List (Round ω)) (o : Occurrence) (directive : Directive ω) (visit : Nat)
    (exchange : Exchange (Pass ω)) : Prop :=
  ∃ early round late answers start,
    rounds = early ++ round :: late ∧
    prepared.Rounds step inputs ∅ world early answers start ∧
    round.Made prepared step inputs answers start ∧
    (∀ other ∈ late, other.key ≠ round.key) ∧
    round.PutIn inputs o directive visit exchange

/-- The `rounds` of a rendering account for the pass that follows them and ends with `machine`. -/
structure Prepared.Accounts (prepared : Prepared ω) (step : String) (inputs : Variables) (world : ω)
    (rounds : List (Round ω)) (answers : Answers) (last : ω) (machine : Machine (Pass ω)) :
    Prop where
  /-- The `rounds` leave the kept replies `answers` and the world `last`. -/
  leads : prepared.Rounds step inputs ∅ world rounds answers last
  /-- With these replies a pass is made in this world, and no directive ends it. -/
  ends : prepared.pass (Pass.invoke prepared step inputs answers) last = .ok () machine
  /-- The exchanges of this pass lead from its start to its end. -/
  links : Exchange.Links (Pass.invoke prepared step inputs answers) (.start last)
    (prepared.exchanges step inputs answers last) machine.host
  /-- At every `exchange` with an awaited directive, the reply of a round is put in. The visit is
  the number of the exchanges `before` with the same directive. -/
  replies : ∀ before exchange after o directive,
    prepared.exchanges step inputs answers last = before ++ exchange :: after →
    prepared.directives[exchange.id]? = some (o, directive) → directive.awaited = true →
    prepared.RepliedBy step inputs world rounds o directive
      (before.countP (·.id == exchange.id)) exchange

namespace Prepared

variable {prepared : Prepared ω} {step : String} {inputs : Variables} {world last : ω}
  {rounds : List (Round ω)} {answers : Answers}

/-- A call of an awaited directive that is answered puts in the reply of the last round at that
visit. -/
theorem Rounds.repliedBy (hrounds : prepared.Rounds step inputs ∅ world rounds answers last)
    {id : Nat} {scope : Path → Option Value} {before after : Pass ω}
    {answer : Option String × Variables}
    {o : Occurrence} {directive : Directive ω}
    (hcall : (Pass.invoke prepared step inputs answers id scope).run before = .ok answer after)
    (hsome : prepared.directives[id]? = some (o, directive))
    (hawaited : directive.awaited = true) :
    prepared.RepliedBy step inputs world rounds o directive (before.visits.getD id 0)
      ⟨id, scope, before, answer, after⟩ := by
  have hinvokes := Pass.invokes prepared step inputs answers id scope before
  rw [hcall] at hinvokes
  cases hinvokes with
  | nothing hnone =>
    rw [hnone] at hsome
    cases hsome
  | ran hfound himmediate =>
    rw [hfound] at hsome
    cases hsome
    rw [hawaited] at himmediate
    cases himmediate
  | @replayed o' directive' answer' hfound _ hkept harguments =>
    rw [hfound] at hsome
    cases hsome
    -- No reply was there at first, so this one has been kept by a round.
    rcases hrounds.of_kept hkept with ⟨hnone, -⟩ | hround
    · rw [Std.HashMap.getElem?_empty] at hnone
      cases hnone
    · obtain ⟨early, round, late, text, kept, start, rfl, hkey, hlate, hearly, hmade, htext, rfl⟩ :=
        hround
      obtain ⟨hid, hvisit⟩ := Prod.mk.inj hkey
      -- The directive of the round stands at the same number.
      have hsame := hmade.found
      rw [hid, hfound] at hsame
      cases hsame
      refine ⟨early, round, late, kept, start, rfl, hearly, hmade, ?_, ?_⟩
      · rw [hkey]
        exact hlate
      · exact ⟨hid, hvisit, ⟨rfl, rfl⟩, harguments, htext, rfl, rfl, rfl⟩

/-- The `rounds` account for every pass that follows them and is not ended by a directive. -/
theorem Rounds.accounts (hrounds : prepared.Rounds step inputs ∅ world rounds answers last)
    {machine : Machine (Pass ω)}
    (hpass : prepared.pass (Pass.invoke prepared step inputs answers) last = .ok () machine) :
    prepared.Accounts step inputs world rounds answers last machine := by
  have hobserved : Template.observe
      (prepared.pass (Pass.invoke prepared step inputs answers) last) =
        .ok (.ok (), machine.withHost ()) machine.host := by
    rw [hpass]
    rfl
  have hlinks : Exchange.Links (Pass.invoke prepared step inputs answers) (.start last)
      (prepared.exchanges step inputs answers last) machine.host :=
    Template.links_exchanges hobserved
  refine ⟨hrounds, hpass, hlinks, ?_⟩
  intro before exchange after o directive hsplit hsome hawaited
  rw [hsplit] at hlinks
  obtain ⟨host, hbefore, hafter⟩ := hlinks.split
  obtain _ | @⟨id, scope, host, next, last', answer, rest, hcall, hrest⟩ := hafter
  -- The visit is the number of the exchanges with this directive before.
  have hvisit := Pass.visits_of_links hbefore hsome hawaited
  have hstart : (Pass.start last).visits.getD id 0 = 0 := Std.HashMap.getD_empty
  rw [hstart, Nat.zero_add] at hvisit
  rw [← hvisit]
  exact hrounds.repliedBy hcall hsome hawaited

end Prepared

/-- The `text` of a rendering is the one of a last pass, and the awaited calls that have been made
before account for it: whatever is put in at an awaited directive is the reply to the last call of
this directive that was made at the same visit, and the arguments of that call are alike to those
that the directive has in the last pass. -/
theorem render_accounts {registry : Registry ω} {step : String} {inputs : Variables} {body : String}
    {world : ω} {text : String}
    (htext : (render registry step inputs body world).1.result = .ok text) :
    ∃ prepared rounds answers last machine,
      prepare registry inputs body = .ok prepared ∧
      awaitedCalls registry step inputs body world = rounds.map (Round.call step inputs) ∧
      prepared.Accounts step inputs world rounds answers last machine ∧
      machine.out = text ∧
      render registry step inputs body world =
        (⟨machine.host.outputs, .ok machine.out⟩, machine.host.world) := by
  cases hprepare : prepare registry inputs body with
  | error e =>
    rw [render_of_error hprepare] at htext
    cases htext
  | ok prepared =>
    rcases prepared.closes_or_due step inputs ∅ world maxAwaitedCalls with
      ⟨rounds, answers, last, hrounds, hend | ⟨hlength, suspension, pass, hdue⟩⟩
    · obtain ⟨final, failure, result, hlimit, hcloses⟩ := hend
      have hsettles : prepared.Settles step inputs world (rounds ++ final) (rounds.length + 1)
          failure result :=
        ⟨rounds, answers, last, final, hrounds, hcloses, rfl, rfl⟩
      rw [← List.length_append] at hlimit
      have hrender := render_of_settles hprepare hsettles hlimit
      have hcalls := awaitedCalls_of_settles hprepare hsettles hlimit
      rw [hrender] at htext ⊢
      cases hcloses with
      | failed => cases htext
      | awaitedFailed => cases htext
      | @ended ending pass houtcome =>
        unfold Prepared.outcome at houtcome
        generalize hpass : prepared.pass (Pass.invoke prepared step inputs answers) last = result
          at houtcome
        -- Only a pass that comes to its end without a fault gives a text.
        rcases result with ⟨_, machine⟩ | ⟨f | i, machine⟩ <;> cases houtcome
        · rw [List.append_nil] at hcalls
          exact ⟨prepared, rounds, answers, last, machine, rfl, hcalls, hrounds.accounts hpass,
            Except.ok.inj htext, rfl⟩
        · cases htext
    · have hrefused := render_of_due hprepare
        ⟨answers, last, suspension, hrounds, hdue, rfl⟩ hlength
      rw [hrefused] at htext
      cases htext

/-- In `countedBody`, the replies for the first counts are replaced, and the text has those for the
last one. -/
theorem render_accounts_counted :
    (render [("count", counting 4), ("echo", showing)] "greeting" [] countedBody 0).1.result =
        .ok "4,4," ∧
      ∃ prepared rounds answers last machine,
        prepare [("count", counting 4), ("echo", showing)] [] countedBody = .ok prepared ∧
        awaitedCalls [("count", counting 4), ("echo", showing)] "greeting" [] countedBody 0 =
          rounds.map (Round.call "greeting" []) ∧
        prepared.Accounts "greeting" [] 0 rounds answers last machine ∧
        machine.out = "4,4," ∧
        render [("count", counting 4), ("echo", showing)] "greeting" [] countedBody 0 =
          (⟨machine.host.outputs, .ok machine.out⟩, machine.host.world) := by
  have htext : (render [("count", counting 4), ("echo", showing)] "greeting" [] countedBody
      0).1.result = .ok "4,4," := by
    rw [render_eq_renderListed]
    have hlisted : (renderListed [("count", counting 4), ("echo", showing)] "greeting" []
        countedBody 0).1.result.toOption = some "4,4," := by decide +kernel
    generalize (renderListed _ _ _ _ 0).1.result = result at hlisted ⊢
    cases result <;> cases hlisted
    rfl
  exact ⟨htext, render_accounts htext⟩

end Promptbook
