import Promptbook.Proofs.Directive.CallLog
import Promptbook.Proofs.Directive.Rounds

/-!
# Logs of Rounds

Noting calls in a log beside the world does not disturb a rendering in passes either. What a pass
notes are the calls of the directives that run in place; the awaited calls that are noted are those
of the rounds, in their order.

## Main definitions

* `CallLog.awaitedCalls`: the awaited calls of a log.
* `awaitedCalls`: the awaited calls that rendering a body makes.
* `Prepared.callsInPass`: the calls that a pass makes.

## Main results

* `Prepared.outcome_logged`: a pass with a log comes to the same, and notes no awaited call.
* `Prepared.Rounds.logged`, `Prepared.Closes.logged`: so do rounds and the end of a rendering, which
  note one awaited call each.
-/

namespace Promptbook

open Template (Dialogue Ending)

variable {ω : Type}

/-- The awaited calls of `log`, in their order. -/
def CallLog.awaitedCalls (log : CallLog) : List Call :=
  (log.filter LoggedCall.awaited).map LoggedCall.call

@[simp]
theorem CallLog.awaitedCalls_append (log noted : CallLog) :
    awaitedCalls (log ++ noted) = awaitedCalls log ++ awaitedCalls noted := by
  rw [awaitedCalls, List.filter_append, List.map_append]
  rfl

/-- A `log` in which every call ran in place has no awaited calls. -/
theorem CallLog.awaitedCalls_eq_nil {log : CallLog} (h : ∀ entry ∈ log, entry.awaited = false) :
    awaitedCalls log = [] := by
  rw [awaitedCalls, List.filter_eq_nil_iff.2 fun entry hmem => by simp [h entry hmem], List.map_nil]

/-- The awaited calls that rendering `body` makes, the first one first. -/
def awaitedCalls (registry : Registry ω) (step : String) (inputs : Variables) (body : String)
    (world : ω) : List Call :=
  let (_, _, log) := render registry.logged step inputs body (world, [])
  CallLog.awaitedCalls log

/-- A result of a pass with `log` beside the world of its state. -/
def Pass.resultWithLog {α : Type} (log : CallLog) :
    EStateM.Result Interruption (Pass ω) α → EStateM.Result Interruption (Pass (ω × CallLog)) α
  | .ok a pass => .ok a (pass.withLog log)
  | .error i pass => .error i (pass.withLog log)

/-- The kept replies are put in whether there is a `log` or not. -/
theorem Pass.run_replay_withLog (answers : Answers) (id : Nat) (pass : Pass ω)
    (arguments : Arguments) (log : CallLog) :
    (Pass.replay answers id arguments).run (pass.withLog log) =
      Pass.resultWithLog log ((Pass.replay answers id arguments).run pass) := by
  rcases answers.kept_or_unlike (id, pass.visits.getD id 0) arguments with
    ⟨answer, hkept, harguments⟩ | hopen
  · rw [run_replay_of_answer _ _ _ hkept harguments,
      run_replay_of_answer (pass.withLog log) _ _ hkept harguments]
    rfl
  · rw [run_replay_of_unlike _ _ _ hopen, run_replay_of_unlike (pass.withLog log) _ _ hopen]
    rfl

/-- The `round` with `log` beside its worlds. After the call, the log has got the call. -/
def Round.withLog (step : String) (inputs : Variables) (log : CallLog) (round : Round ω) :
    Round (ω × CallLog) where
  suspension := round.suspension
  pass := round.pass.withLog log
  occurrence := round.occurrence
  directive := round.directive.logged
  reply := round.reply
  world := (round.world, log ++ [⟨round.directive.awaited, round.call step inputs⟩])

namespace Prepared

section Calls

variable (prepared : Prepared ω) (step : String) (inputs : Variables) (answers : Answers)

/-- The call that `pass` makes at the directive of the occurrence `id`: one that runs in place is
called, while an awaited one is answered from the kept replies or ends the pass. -/
def callAt (id : Nat) (scope : Path → Option Value) (pass : Pass ω) : CallLog :=
  match prepared.directives[id]? with
  | none => []
  | some (o, directive) =>
    if directive.awaited then []
    else [⟨directive.awaited,
      pass.callOf step inputs id o.name (o.resolve scope pass.outputs inputs)⟩]

/-- The calls that a pass makes while it holds a dialogue. -/
def callsInPass : Dialogue (Ending Unit) → Pass ω → CallLog
  | .finished _, _ => []
  | .asks id scope next, pass =>
    prepared.callAt step inputs id scope pass ++
      match (Pass.invoke prepared step inputs answers id scope).run pass with
      | .ok answer pass' => callsInPass (next answer) pass'
      | .error _ _ => []

/-- A pass makes no awaited calls while it runs. -/
theorem awaited_of_mem_callAt {id : Nat} {scope : Path → Option Value} {pass : Pass ω}
    {entry : LoggedCall} (h : entry ∈ prepared.callAt step inputs id scope pass) :
    entry.awaited = false := by
  unfold callAt at h
  split at h
  · exact absurd h List.not_mem_nil
  · split at h
    · exact absurd h List.not_mem_nil
    · next himmediate =>
      rw [List.mem_singleton.1 h]
      exact Bool.eq_false_iff.2 himmediate

theorem awaited_of_mem_callsInPass {d : Dialogue (Ending Unit)} {pass : Pass ω}
    {entry : LoggedCall} (h : entry ∈ prepared.callsInPass step inputs answers d pass) :
    entry.awaited = false := by
  induction d generalizing pass with
  | finished ending => exact absurd h List.not_mem_nil
  | asks id scope next ih =>
    rw [callsInPass] at h
    rcases List.mem_append.1 h with h | h
    · exact prepared.awaited_of_mem_callAt step inputs h
    · split at h
      · exact ih _ h
      · exact absurd h List.not_mem_nil

/-- A directive comes to the same with a `log`, which gets the call that is made. -/
theorem run_invoke_logged (id : Nat) (scope : Path → Option Value) (pass : Pass ω)
    (log : CallLog) :
    (Pass.invoke prepared.logged step inputs answers id scope).run (pass.withLog log) =
      Pass.resultWithLog (log ++ prepared.callAt step inputs id scope pass)
        ((Pass.invoke prepared step inputs answers id scope).run pass) := by
  -- The logged directive stands at the same number.
  have hfind := prepared.directives_logged id
  cases hsome : prepared.directives[id]? with
  | none =>
    rw [hsome] at hfind
    rw [Pass.run_invoke_of_none _ _ _ _ _ _ _ hsome, Pass.run_invoke_of_none _ _ _ _ _ _ _ hfind]
    simp only [callAt, hsome, List.append_nil]
    rfl
  | some found =>
    obtain ⟨o, directive⟩ := found
    rw [hsome] at hfind
    cases hawaited : directive.awaited with
    | true =>
      rw [Pass.run_invoke_of_awaited _ _ _ _ _ _ _ hsome hawaited,
        Pass.run_invoke_of_awaited _ _ _ _ _ _ _ hfind hawaited]
      simp only [callAt, hsome, hawaited, if_true, List.append_nil]
      exact Pass.run_replay_withLog answers id pass _ log
    | false =>
      obtain ⟨⟨reply, world⟩, hreply⟩ : ∃ r, directive.run (pass.callOf step inputs id o.name
        (o.resolve scope pass.outputs inputs)) pass.world = r := ⟨_, rfl⟩
      rw [Pass.run_invoke_of_immediate _ _ _ _ _ _ _ hsome hawaited, Pass.run_run _ _ _ _ hreply,
        Pass.run_invoke_of_immediate _ _ _ _ _ _ _ hfind hawaited, Pass.outputs_withLog,
        Pass.run_run (pass.withLog log) _ _ _ (directive.run_logged log hreply)]
      simp only [callAt, hsome, hawaited]
      cases reply.result <;> rfl

/-- Holding the dialogue `d` comes to the same with a `log`, which gets the calls that are made. -/
theorem hold_invoke_logged (d : Dialogue (Ending Unit)) (pass : Pass ω) (log : CallLog) :
    (d.hold (Pass.invoke prepared.logged step inputs answers)).run (pass.withLog log) =
      Pass.resultWithLog (log ++ prepared.callsInPass step inputs answers d pass)
        ((d.hold (Pass.invoke prepared step inputs answers)).run pass) := by
  induction d generalizing pass log with
  | finished ending =>
    rw [callsInPass, List.append_nil]
    rfl
  | asks id scope next ih =>
    rw [Dialogue.run_hold_asks, Dialogue.run_hold_asks, run_invoke_logged, callsInPass]
    cases (Pass.invoke prepared step inputs answers id scope).run pass with
    | error i pass' =>
      rw [List.append_nil]
      rfl
    | ok answer pass' =>
      -- The rest of the pass starts with the log that the call has left.
      have hrest := ih answer pass' (log ++ prepared.callAt step inputs id scope pass)
      rw [List.append_assoc] at hrest
      exact hrest

/-- A pass comes to the same with a `log`, which gets no awaited calls. -/
theorem outcome_logged (world : ω) (log : CallLog) :
    ∃ noted, CallLog.awaitedCalls noted = [] ∧
      prepared.logged.outcome step inputs answers (world, log) =
        Pass.resultWithLog (log ++ noted) (prepared.outcome step inputs answers world) := by
  obtain ⟨d, hd⟩ := prepared.exists_dialogue
  -- The nodes and variables of the template are the same, and so is the dialogue.
  have hlogged : prepared.logged.IsDialogue d := hd
  refine ⟨prepared.callsInPass step inputs answers d (.start world), ?_, ?_⟩
  · exact CallLog.awaitedCalls_eq_nil fun _ =>
      prepared.awaited_of_mem_callsInPass step inputs answers
  · rw [outcome, outcome, hd.observe_pass, hlogged.observe_pass]
    exact prepared.hold_invoke_logged step inputs answers d (.start world) log

end Calls

variable {prepared : Prepared ω} {step : String} {inputs : Variables} {answers : Answers}
  {world : ω}

/-- A `round` is made with a `log` as it is without one. What its pass has `noted` is no awaited
call. -/
theorem made_logged {round : Round ω} (hmade : round.Made prepared step inputs answers world)
    (log : CallLog) :
    ∃ noted, CallLog.awaitedCalls noted = [] ∧
      (round.withLog step inputs (log ++ noted)).Made prepared.logged step inputs answers
        (world, log) := by
  obtain ⟨noted, hnoted, houtcome⟩ := prepared.outcome_logged step inputs answers world log
  refine ⟨noted, hnoted, ⟨?_, ?_, hmade.awaited, ?_⟩⟩
  · rw [houtcome, hmade.suspended]
    rfl
  · rw [directives_logged, Round.withLog, hmade.found]
    rfl
  · exact round.directive.run_logged (log ++ noted) hmade.replied

/-- The awaited calls of the log after `round` are those before, and the call of the round. -/
theorem awaitedCalls_withLog {round : Round ω}
    (hmade : round.Made prepared step inputs answers world) {log noted : CallLog}
    (hnoted : CallLog.awaitedCalls noted = []) :
    CallLog.awaitedCalls (round.withLog step inputs (log ++ noted)).world.2 =
      CallLog.awaitedCalls log ++ [round.call step inputs] := by
  rw [Round.withLog, CallLog.awaitedCalls_append, CallLog.awaitedCalls_append, hnoted,
    List.append_nil, hmade.awaited]
  rfl

/-- The `rounds` are made with a `log` as they are without one, and the log gets one awaited call
from each of them. -/
theorem Rounds.logged {rounds : List (Round ω)} {answers' : Answers} {last : ω}
    (h : prepared.Rounds step inputs answers world rounds answers' last) (log : CallLog) :
    ∃ rounds' log', prepared.logged.Rounds step inputs answers (world, log) rounds' answers'
        (last, log') ∧
      rounds'.length = rounds.length ∧
      CallLog.awaitedCalls log' =
        CallLog.awaitedCalls log ++ rounds.map (Round.call step inputs) := by
  induction h generalizing log with
  | none => exact ⟨[], log, .none, rfl, (List.append_nil _).symm⟩
  | @more answers answers' world last round rounds text hmade htext _ ih =>
    obtain ⟨noted, hnoted, hlogged⟩ := made_logged hmade log
    -- The later rounds start with what the pass and the call of this one have noted.
    obtain ⟨rounds', log', hrounds, hlength, hcalls⟩ :=
      ih (round.withLog step inputs (log ++ noted)).world.2
    refine ⟨_ :: rounds', log', .more hlogged htext hrounds, ?_, ?_⟩
    · rw [List.length_cons, List.length_cons, hlength]
    · rw [hcalls, awaitedCalls_withLog hmade hnoted, List.append_assoc]
      rfl

/-- The rendering ends with a `log` as it does without one, and the log gets the awaited call that
fails, if there is one. -/
theorem Closes.logged {final : List (Round ω)} {failure : Option Error} {result : Rendering × ω}
    (h : prepared.Closes step inputs answers world final failure result) (log : CallLog) :
    ∃ final' log', prepared.logged.Closes step inputs answers (world, log) final' failure
        (result.1, result.2, log') ∧
      final'.length = final.length ∧
      CallLog.awaitedCalls log' =
        CallLog.awaitedCalls log ++ final.map (Round.call step inputs) := by
  obtain ⟨noted, hnoted, houtcome⟩ := prepared.outcome_logged step inputs answers world log
  have hcalls : CallLog.awaitedCalls (log ++ noted) = CallLog.awaitedCalls log ++ [] := by
    rw [CallLog.awaitedCalls_append, hnoted]
  cases h with
  | @ended ending pass hpass =>
    rw [hpass] at houtcome
    have hclosed := Closes.ended houtcome
    obtain ⟨result, machine⟩ := ending
    -- The rendering is read off the outputs and the machine, the world is the one with the log.
    refine ⟨[], log ++ noted, ?_, rfl, hcalls⟩
    cases result <;> exact hclosed
  | failed hpass =>
    rw [hpass] at houtcome
    exact ⟨[], log ++ noted, .failed houtcome, rfl, hcalls⟩
  | awaitedFailed hmade herror =>
    obtain ⟨noted, hnoted, hlogged⟩ := made_logged hmade log
    exact ⟨_, _, .awaitedFailed hlogged herror, rfl, awaitedCalls_withLog hmade hnoted⟩

end Prepared

end Promptbook
