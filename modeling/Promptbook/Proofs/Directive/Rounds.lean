import Promptbook.Proofs.Directive.Pass
import Promptbook.Proofs.Template.Exchange

/-!
# Rounds of a Rendering

A rendering in passes goes round by round: a pass ends at an awaited directive, and the directive is
called. Its reply is kept under the occurrence and the visit at which the pass has ended, in place
of any reply that was kept there before. Nothing is assumed about directives: a pass that starts
over may come to other arguments, and end at a visit for which a reply has been kept already.

## Main definitions

* `Pass.Invokes`: what a single call of a directive comes to during a pass, case by case.
* `Prepared.outcome`: what comes of a pass.
* `Round`, `Round.Made`: a pass that ends at an awaited directive, and the call of that directive.
* `Prepared.Rounds`: rounds, one after another, each with the replies that those before it have
  left.
* `Prepared.Closes`: how a rendering ends after its rounds.

## Main results

* `Prepared.renderWith_of_rounds`: rendering is going through the rounds.
* `Prepared.Rounds.of_kept`: a kept reply is the one of the last round at that visit.
* `Prepared.closes_or_due`: a limit on the rounds is kept in every case.
-/

namespace Promptbook

open Template (Dialogue Ending Exchange Host)

variable {ω : Type}

section Calls

variable (prepared : Prepared ω) (step : String) (inputs : Variables) (answers : Answers)
  (id : Nat) (scope : Path → Option Value) (pass : Pass ω)

/-- What the call of the directive with the number `id` comes to during a pass. -/
inductive Pass.Invokes :
    EStateM.Result Interruption (Pass ω) (Option String × Variables) → Prop
  /-- No directive stands under this number. -/
  | nothing (hnone : prepared.directives[id]? = none) : Invokes (.ok (none, pass.outputs) pass)
  /-- The directive runs in place. -/
  | ran {o : Occurrence} {directive : Directive ω} {reply : Reply} {world : ω}
      {text : Option String} (hsome : prepared.directives[id]? = some (o, directive))
      (himmediate : directive.awaited = false)
      (hreply : directive.run (pass.callOf step inputs id o.name
        (o.resolve scope pass.outputs inputs)) pass.world = (reply, world))
      (htext : reply.result = .ok text) :
      Invokes (.ok (text, reply.outputs) (pass.received id reply world))
  /-- The directive runs in place and fails with `e`. -/
  | failed {o : Occurrence} {directive : Directive ω} {reply : Reply} {world : ω} {e : Error}
      (hsome : prepared.directives[id]? = some (o, directive))
      (himmediate : directive.awaited = false)
      (hreply : directive.run (pass.callOf step inputs id o.name
        (o.resolve scope pass.outputs inputs)) pass.world = (reply, world))
      (herror : reply.result = .error e) :
      Invokes (.error (.failed e) (pass.received id reply world))
  /-- An `answer` has been kept for this visit, for arguments that are alike. -/
  | replayed {o : Occurrence} {directive : Directive ω} {answer : Answer}
      (hsome : prepared.directives[id]? = some (o, directive))
      (hawaited : directive.awaited = true)
      (hkept : answers[(id, pass.visits.getD id 0)]? = some answer)
      (harguments : answer.arguments.alike (o.resolve scope pass.outputs inputs) = true) :
      Invokes (.ok (answer.text, answer.outputs) (pass.answered id answer))
  /-- No reply has been kept for this visit, or one for arguments that are not alike. -/
  | awaiting {o : Occurrence} {directive : Directive ω}
      (hsome : prepared.directives[id]? = some (o, directive))
      (hawaited : directive.awaited = true)
      (hopen : ∀ answer, answers[(id, pass.visits.getD id 0)]? = some answer →
        answer.arguments.alike (o.resolve scope pass.outputs inputs) = false) :
      Invokes (.error (.awaiting ⟨id, pass.visits.getD id 0,
        o.resolve scope pass.outputs inputs, pass.fieldIndexes.getD id 0⟩) (pass.met id))

/-- Every call of a directive comes to one of the results in `Pass.Invokes`. -/
theorem Pass.invokes :
    Pass.Invokes prepared step inputs answers id scope pass
      ((Pass.invoke prepared step inputs answers id scope).run pass) := by
  cases hsome : prepared.directives[id]? with
  | none =>
    rw [Pass.run_invoke_of_none _ _ _ _ _ _ _ hsome]
    exact .nothing hsome
  | some found =>
    obtain ⟨o, directive⟩ := found
    cases hawaited : directive.awaited with
    | true =>
      rw [Pass.run_invoke_of_awaited _ _ _ _ _ _ _ hsome hawaited]
      -- A reply is replayed if one is kept for this visit and its arguments are alike.
      rcases answers.kept_or_unlike (id, pass.visits.getD id 0)
        (o.resolve scope pass.outputs inputs) with ⟨answer, hkept, harguments⟩ | hopen
      · rw [Pass.run_replay_of_answer _ _ _ hkept harguments]
        exact .replayed hsome hawaited hkept harguments
      · rw [Pass.run_replay_of_unlike _ _ _ hopen]
        exact .awaiting hsome hawaited hopen
    | false =>
      -- Other directives run at once, and the pass goes on or fails with them.
      obtain ⟨⟨reply, world⟩, hreply⟩ : ∃ r, directive.run (pass.callOf step inputs id o.name
        (o.resolve scope pass.outputs inputs)) pass.world = r := ⟨_, rfl⟩
      rw [Pass.run_invoke_of_immediate _ _ _ _ _ _ _ hsome hawaited, Pass.run_run _ _ _ _ hreply]
      cases hresult : reply.result with
      | ok text => exact .ran hsome hawaited hreply hresult
      | error e => exact .failed hsome hawaited hreply hresult

end Calls

/-- A pass that has ended at an awaited directive, and the call of that directive. -/
structure Round (ω : Type) where
  /-- The awaited call that ended the pass. -/
  suspension : Suspension
  /-- What the directives of the pass had done. -/
  pass : Pass ω
  /-- The occurrence of the directive. -/
  occurrence : Occurrence
  /-- The directive. -/
  directive : Directive ω
  /-- What the directive replied. -/
  reply : Reply
  /-- The world that the call left. -/
  world : ω

namespace Round

/-- The occurrence and the visit under which the reply of `round` is kept. -/
def key (round : Round ω) : Nat × Nat :=
  (round.suspension.occurrence, round.suspension.visit)

/-- The call of the directive. It goes on from the outputs that the pass had when it ended. -/
def call (step : String) (inputs : Variables) (round : Round ω) : Call :=
  ⟨round.occurrence.name, ⟨step, inputs, round.pass.outputs⟩, round.suspension.arguments,
    round.suspension.fieldIndex⟩

/-- What is kept of the reply when it gives `text`. -/
def answer (round : Round ω) (text : Option String) : Answer :=
  ⟨round.suspension.arguments, text, round.reply.outputs, round.reply.fieldIndex⟩

end Round

namespace Prepared

variable (prepared : Prepared ω) (step : String) (inputs : Variables)

/-- What comes of a pass with `answers` that starts in `world`: its text or a fault of the template,
unless a directive ends it. -/
def outcome (answers : Answers) (world : ω) :
    EStateM.Result Interruption (Pass ω) (Ending Unit) :=
  Template.observe (prepared.pass (Pass.invoke prepared step inputs answers) world)

end Prepared

/-- The pass with `answers` that starts in `world` ends at the awaited directive of `round`, and the
directive replies as the round says. -/
structure Round.Made (prepared : Prepared ω) (step : String) (inputs : Variables)
    (answers : Answers) (world : ω) (round : Round ω) : Prop where
  /-- The pass ends at the awaited call. -/
  suspended : prepared.outcome step inputs answers world =
    .error (.awaiting round.suspension) round.pass
  /-- The directive is the one of the occurrence at which the pass ends. -/
  found : prepared.directives[round.suspension.occurrence]? =
    some (round.occurrence, round.directive)
  /-- The directive is an awaited one. -/
  awaited : round.directive.awaited = true
  /-- The directive replies in the world in which the pass ends. -/
  replied : round.directive.run (round.call step inputs) round.pass.world =
    (round.reply, round.world)

/-- To obtain the reply that the pass waits for is to make the call of `round`. -/
theorem Round.Made.run_suspension {prepared : Prepared ω} {step : String} {inputs : Variables}
    {answers : Answers} {world : ω} {round : Round ω}
    (h : round.Made prepared step inputs answers world) :
    round.suspension.run round.directive round.occurrence.name step inputs round.pass.outputs
      round.pass.world = (round.reply, round.world) :=
  h.replied

namespace Prepared

section Relations

variable (prepared : Prepared ω) (step : String) (inputs : Variables)

/-- The rounds in the list lead from the replies and the world in front to those behind. No
directive fails in them. -/
inductive Rounds : Answers → ω → List (Round ω) → Answers → ω → Prop
  /-- Without rounds nothing changes. -/
  | none {answers : Answers} {world : ω} : Rounds answers world [] answers world
  /-- A `round`, and those that follow it: they have its reply, and start in the world that it
  left. -/
  | more {answers answers' : Answers} {world last : ω} {round : Round ω} {rounds : List (Round ω)}
      {text : Option String} (hmade : round.Made prepared step inputs answers world)
      (htext : round.reply.result = .ok text)
      (hrest : Rounds (answers.insert round.key (round.answer text)) round.world rounds answers'
        last) :
      Rounds answers world (round :: rounds) answers' last

/-- How a rendering ends once it has come to `answers` and `world`. It makes at most one more
awaited call. If a directive has failed, so does the rendering, with the error of the directive. -/
inductive Closes (answers : Answers) (world : ω) :
    List (Round ω) → (failure : Option Error) → Rendering × ω → Prop
  /-- No directive ends the pass. -/
  | ended {ending : Ending Unit} {pass : Pass ω}
      (hpass : prepared.outcome step inputs answers world = .ok ending pass) :
      Closes answers world [] none (Rendering.ofPass (.ok ending pass))
  /-- A directive fails in place with `e`. -/
  | failed {e : Error} {pass : Pass ω}
      (hpass : prepared.outcome step inputs answers world = .error (.failed e) pass) :
      Closes answers world [] (some e) (⟨pass.outputs, .error e⟩, pass.world)
  /-- An awaited directive fails with `e`. -/
  | awaitedFailed {e : Error} {round : Round ω}
      (hmade : round.Made prepared step inputs answers world)
      (herror : round.reply.result = .error e) :
      Closes answers world [round] (some e) (⟨round.reply.outputs, .error e⟩, round.world)

end Relations

variable {prepared : Prepared ω} {step : String} {inputs : Variables} {answers : Answers}
  {world : ω}

/-- A pass that a directive ends is ended by a call, in the state to which its exchanges lead. -/
theorem exists_invokes_of_outcome {i : Interruption} {pass : Pass ω}
    (h : prepared.outcome step inputs answers world = .error i pass) :
    ∃ id scope before,
      Exchange.Links (Pass.invoke prepared step inputs answers) (.start world)
        (Template.exchanges prepared.globals (Pass.invoke prepared step inputs answers)
          prepared.nodes (.start world)) before ∧
      Pass.Invokes prepared step inputs answers id scope before (.error i pass) := by
  obtain ⟨id, scope, before, hlinks, hcall⟩ := Template.links_exchanges_of_observe_error h
  have hinvokes := Pass.invokes prepared step inputs answers id scope before
  rw [hcall] at hinvokes
  exact ⟨id, scope, before, hlinks, hinvokes⟩

/-- If a pass ends at an awaited call, there is a round with that call, whatever the directive
replies. -/
theorem exists_made {s : Suspension} {pass : Pass ω}
    (h : prepared.outcome step inputs answers world = .error (.awaiting s) pass) :
    ∃ round : Round ω, round.Made prepared step inputs answers world := by
  obtain ⟨id, scope, before, -, hinvokes⟩ := exists_invokes_of_outcome h
  obtain _ | _ | _ | _ | @⟨o, directive, hsome, hawaited, -⟩ := hinvokes
  -- The pass can have ended at an awaited directive only.
  let s : Suspension := ⟨id, before.visits.getD id 0, o.resolve scope before.outputs inputs,
    before.fieldIndexes.getD id 0⟩
  obtain ⟨⟨reply, after⟩, hreply⟩ : ∃ r, directive.run
    ⟨o.name, ⟨step, inputs, (before.met id).outputs⟩, s.arguments, s.fieldIndex⟩
      (before.met id).world = r := ⟨_, rfl⟩
  exact ⟨⟨s, before.met id, o, directive, reply, after⟩, h, hsome, hawaited, hreply⟩

section Rendering

/-- After a `round` without a failure, the rendering goes on with its reply kept. -/
theorem renderWith_of_made {round : Round ω} {text : Option String} (remaining : Nat)
    (hmade : round.Made prepared step inputs answers world)
    (htext : round.reply.result = .ok text) :
    prepared.renderWith step inputs (remaining + 1) answers world =
      prepared.renderWith step inputs remaining
        (answers.insert round.key (round.answer text)) round.world := by
  obtain ⟨d, hd⟩ := prepared.exists_dialogue
  have hpass := hmade.suspended
  rw [outcome, hd.observe_pass] at hpass
  rw [renderWith_of_awaiting hd step inputs remaining hpass hmade.found, hmade.run_suspension]
  simp only [htext]
  rfl

/-- Rendering goes through the `rounds`, each of which uses up one of the awaited calls that may be
made. -/
theorem renderWith_of_rounds {rounds : List (Round ω)} {answers' : Answers} {last : ω}
    (h : prepared.Rounds step inputs answers world rounds answers' last) (remaining : Nat) :
    prepared.renderWith step inputs (rounds.length + remaining) answers world =
      prepared.renderWith step inputs remaining answers' last := by
  induction h with
  | none => rw [List.length_nil, Nat.zero_add]
  | more hmade htext _ ih =>
    rw [List.length_cons, Nat.add_right_comm, renderWith_of_made _ hmade htext, ih]

/-- A rendering that closes comes to its `result`, if there are enough calls left for that. -/
theorem renderWith_of_closes {final : List (Round ω)} {failure : Option Error}
    {result : Rendering × ω} (h : prepared.Closes step inputs answers world final failure result)
    {remaining : Nat} (hremaining : final.length ≤ remaining) :
    prepared.renderWith step inputs remaining answers world = result := by
  obtain ⟨d, hd⟩ := prepared.exists_dialogue
  cases h with
  | ended hpass =>
    rw [outcome, hd.observe_pass] at hpass
    rw [renderWith_eq_ofPass hd step inputs remaining (by simp [hpass]), hpass]
  | failed hpass =>
    rw [outcome, hd.observe_pass] at hpass
    rw [renderWith_eq_ofPass hd step inputs remaining (by simp [hpass]), hpass]
    rfl
  -- The failing call is the last round, so one call must be left for it.
  | @awaitedFailed e round hmade herror =>
    obtain ⟨remaining, rfl⟩ := Nat.exists_eq_add_of_le' hremaining
    have hpass := hmade.suspended
    rw [outcome, hd.observe_pass] at hpass
    rw [List.length_singleton, renderWith_of_awaiting hd step inputs remaining hpass hmade.found,
      hmade.run_suspension]
    simp only [herror]

/-- If an awaited call is due and none may be made any more, the rendering is refused, with the
outputs of the pass that has ended there. -/
theorem renderWith_of_due {s : Suspension} {pass : Pass ω}
    (h : prepared.outcome step inputs answers world = .error (.awaiting s) pass) :
    prepared.renderWith step inputs 0 answers world =
      (⟨pass.outputs, .error tooManyCalls⟩, pass.world) := by
  obtain ⟨d, hd⟩ := prepared.exists_dialogue
  rw [outcome, hd.observe_pass] at h
  exact renderWith_of_awaiting_zero hd step inputs h

end Rendering

/-- Whatever the directives reply, a rendering closes with at most `limit` awaited calls, or after
that many another one is due. -/
theorem closes_or_due (prepared : Prepared ω) (step : String) (inputs : Variables)
    (answers : Answers) (world : ω) (limit : Nat) :
    ∃ rounds answers' last, prepared.Rounds step inputs answers world rounds answers' last ∧
      ((∃ final failure result, rounds.length + final.length ≤ limit ∧
          prepared.Closes step inputs answers' last final failure result) ∨
        (rounds.length = limit ∧ ∃ s pass,
          prepared.outcome step inputs answers' last = .error (.awaiting s) pass)) := by
  cases houtcome : prepared.outcome step inputs answers world with
  | ok ending pass =>
    exact ⟨[], answers, world, .none, .inl ⟨[], none, _, Nat.zero_le limit, .ended houtcome⟩⟩
  | error i pass =>
    cases i with
    | failed e =>
      exact ⟨[], answers, world, .none, .inl ⟨[], some e, _, Nat.zero_le limit, .failed houtcome⟩⟩
    | awaiting s =>
      cases limit with
      | zero => exact ⟨[], answers, world, .none, .inr ⟨rfl, s, pass, houtcome⟩⟩
      | succ limit =>
        obtain ⟨round, hmade⟩ := exists_made houtcome
        cases hresult : round.reply.result with
        | error e =>
          refine ⟨[], answers, world, .none,
            .inl ⟨[round], some e, _, ?_, .awaitedFailed hmade hresult⟩⟩
          rw [List.length_nil, List.length_singleton]
          omega
        | ok text =>
          -- A round is one call less that may still be made.
          obtain ⟨rounds, answers', last, hrounds, hrest⟩ := closes_or_due prepared step inputs
            (answers.insert round.key (round.answer text)) round.world limit
          refine ⟨round :: rounds, answers', last, .more hmade hresult hrounds, ?_⟩
          rw [List.length_cons]
          rcases hrest with ⟨final, failure, result, hle, hcloses⟩ | ⟨hlength, hdue⟩
          · exact .inl ⟨final, failure, result, by omega, hcloses⟩
          · exact .inr ⟨by rw [hlength], hdue⟩

/-- A reply that is kept under `key` after some rounds was kept before them already and no round was
made at its visit, or it is the reply of the last round that was. -/
theorem Rounds.of_kept {rounds : List (Round ω)} {answers' : Answers} {last : ω}
    (h : prepared.Rounds step inputs answers world rounds answers' last) {key : Nat × Nat}
    {answer : Answer} (hkept : answers'[key]? = some answer) :
    (answers[key]? = some answer ∧ ∀ round ∈ rounds, round.key ≠ key) ∨
      ∃ early round late text between before,
        rounds = early ++ round :: late ∧ round.key = key ∧ (∀ other ∈ late, other.key ≠ key) ∧
        prepared.Rounds step inputs answers world early between before ∧
        round.Made prepared step inputs between before ∧
        round.reply.result = .ok text ∧ answer = round.answer text := by
  induction h with
  | none => exact .inl ⟨hkept, nofun⟩
  | @more answers answers' world last round rounds text hmade htext _ ih =>
    rcases ih hkept with ⟨hbefore, hlate⟩ | hfound
    · by_cases hkey : round.key = key
      · -- This round is the last one at the visit.
        rw [Std.HashMap.getElem?_insert, if_pos (beq_iff_eq.2 hkey)] at hbefore
        cases hbefore
        exact .inr ⟨[], round, rounds, text, answers, world, rfl, hkey, hlate, .none, hmade, htext,
          rfl⟩
      · rw [Std.HashMap.getElem?_insert, if_neg (by simpa using hkey)] at hbefore
        exact .inl ⟨hbefore, List.forall_mem_cons.2 ⟨hkey, hlate⟩⟩
    · -- A later round has replaced whatever this one has left.
      obtain ⟨early, found, late, text', between, before, rfl, hkey, hlate, hearly, hfound⟩ :=
        hfound
      exact .inr ⟨round :: early, found, late, text', between, before, rfl, hkey, hlate,
        .more hmade htext hearly, hfound⟩

end Prepared

end Promptbook
