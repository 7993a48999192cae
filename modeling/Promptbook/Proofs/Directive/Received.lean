import Promptbook.Proofs.Directive.AwaitLimit
import Promptbook.Proofs.Directive.CallOrder
import Promptbook.Proofs.Template.Question

/-!
# What Directives Receive

An argument that is written as a variable path passes through two lookups before the directive gets
it. The path is looked up where the rendering has come to, among the variables of loops, the
assigned ones and those from the start. Then the value is resolved: if it is a text that is a single
reference in double braces, the value of the path between the braces takes its place, looked up
among outputs and inputs. The second lookup does not tell a text that is written out from one that
the first lookup has found.

## Main definitions

* `Prepared.questions`: the calls of directives that a pass comes to, with the values of variables
  at that point.
* `Prepared.Asks`: the calls of directives that the passes of a rendering come to.
* `ReceivesPath`: what a directive receives for a path, case by case.

## Main results

* `Prepared.asks_of_mem_log`: every call that a rendering makes is one that a pass comes to.
* `receivesPaths_of_mem_callsMade`: what the directive of such a call receives for a path.
-/

namespace Promptbook

open Template (Dialogue Ending Question)

variable {ω : Type}

namespace Prepared

section Questions

variable (prepared : Prepared ω) (step : String) (inputs : Variables) (answers : Answers)

/-- The calls of directives that a pass comes to when it starts in `world`. -/
def questions (world : ω) : List (Question (Pass ω)) :=
  Template.questions prepared.globals (Pass.invoke prepared step inputs answers) prepared.nodes
    (.start world)

/-- A pass comes to the questions of the dialogue `d` of its body. -/
theorem IsDialogue.questions_eq {prepared : Prepared ω} {d : Dialogue (Ending Unit)}
    (h : prepared.IsDialogue d) (world : ω) :
    prepared.questions step inputs answers world =
      d.questions (Pass.invoke prepared step inputs answers) (.start world) :=
  Template.questions_eq_of_dialogue _ _ _ _ h

/-- The call that is made at `question`, unless no directive stands under its number. -/
def callTo (question : Question (Pass ω)) : Option LoggedCall :=
  (prepared.directives[question.id]?).map fun entry =>
    ⟨entry.2.awaited, question.host.callOf step inputs question.id entry.1.name
      (entry.1.resolve question.scope question.host.outputs inputs)⟩

/-- Some pass of a rendering that has come to `answers` and `world` comes to `question`: the pass
after some more rounds, with the replies that they have left. -/
def Asks (world : ω) (question : Question (Pass ω)) : Prop :=
  ∃ rounds answers' start, prepared.Rounds step inputs answers world rounds answers' start ∧
    question ∈ prepared.questions step inputs answers' start

variable {prepared step inputs answers}

/-- A call that a pass makes in place is the one of its question. -/
theorem callTo_of_mem_callAt {id : Nat} {scope : Path → Option Value} {pass : Pass ω}
    {entry : LoggedCall} (h : entry ∈ prepared.callAt step inputs id scope pass) :
    prepared.callTo step inputs ⟨id, scope, pass⟩ = some entry := by
  unfold callAt at h
  split at h
  · exact absurd h List.not_mem_nil
  · next o directive hsome =>
    split at h
    · exact absurd h List.not_mem_nil
    · rw [callTo, hsome, List.mem_singleton.1 h]
      rfl

/-- Every call that is made while a dialogue is held is the one of a question on the way. -/
theorem exists_question_of_mem_callsInPass {d : Dialogue (Ending Unit)} {pass : Pass ω}
    {entry : LoggedCall} (h : entry ∈ prepared.callsInPass step inputs answers d pass) :
    ∃ question ∈ d.questions (Pass.invoke prepared step inputs answers) pass,
      prepared.callTo step inputs question = some entry := by
  induction d generalizing pass with
  | finished ending => exact absurd h List.not_mem_nil
  | asks id scope next ih =>
    rw [callsInPass] at h
    rw [Dialogue.questions]
    rcases List.mem_append.1 h with hhere | hlater
    · exact ⟨_, List.mem_cons_self, callTo_of_mem_callAt hhere⟩
    · cases hinvoke : (Pass.invoke prepared step inputs answers id scope).run pass with
      | error i pass' =>
        rw [hinvoke] at hlater
        exact absurd hlater List.not_mem_nil
      | ok answer pass' =>
        rw [hinvoke] at hlater
        obtain ⟨question, hmem, hcall⟩ := ih answer hlater
        exact ⟨question, List.mem_cons_of_mem _ hmem, hcall⟩

/-- The awaited call of `round` is the one of the question at which its pass has ended. -/
theorem exists_question_of_made {round : Round ω} {world : ω}
    (hmade : round.Made prepared step inputs answers world) :
    ∃ question ∈ prepared.questions step inputs answers world,
      prepared.callTo step inputs question =
        some ⟨round.directive.awaited, round.call step inputs⟩ := by
  obtain ⟨d, hd⟩ := prepared.exists_dialogue
  have hpass := hmade.suspended
  rw [outcome, hd.observe_pass] at hpass
  obtain ⟨question, hmem, hinvoke⟩ := Dialogue.exists_question_of_error hpass
  refine ⟨question, hd.questions_eq step inputs answers world ▸ hmem, ?_⟩
  have hinvokes :=
    Pass.invokes prepared step inputs answers question.id question.scope question.host
  rw [hinvoke] at hinvokes
  -- The pass can have ended at an awaited directive only, which is the one of the round.
  obtain ⟨suspension, pass, o, directive, reply, after⟩ := round
  obtain _ | _ | _ | _ | @⟨o', directive', hsome, -, -⟩ := hinvokes
  have hfound : prepared.directives[question.id]? = some (o, directive) := hmade.found
  rw [callTo, hfound]
  rw [hsome] at hfound
  cases hfound
  rfl

end Questions

variable {prepared : Prepared ω} {step : String} {inputs : Variables}

/-- If a rendering that goes on behind `round` comes to `question`, so does one that goes on from
before the round. -/
theorem Asks.of_made {answers : Answers} {world : ω} {round : Round ω} {text : Option String}
    {question : Question (Pass ω)} (hmade : round.Made prepared step inputs answers world)
    (htext : round.reply.result = .ok text)
    (h : prepared.Asks step inputs (answers.insert round.key (round.answer text)) round.world
      question) :
    prepared.Asks step inputs answers world question := by
  obtain ⟨rounds, answers', start, hrounds, hmem⟩ := h
  exact ⟨round :: rounds, answers', start, .more hmade htext hrounds, hmem⟩

section Log

variable {d : Dialogue (Ending Unit)} (hd : prepared.IsDialogue d) {answers : Answers} {world : ω}
  (log : CallLog)

include hd

/-- If the pass of a rendering is its last one, the `log` gets the calls of that pass. -/
theorem log_of_last (remaining : Nat)
    (hlast : remaining = 0 ∨ ∀ s pass,
      prepared.outcome step inputs answers world ≠ .error (.awaiting s) pass) :
    (prepared.logged.renderWith step inputs remaining answers (world, log)).2.2 =
      log ++ prepared.callsInPass step inputs answers d (.start world) := by
  have hlogged : prepared.logged.IsDialogue d := hd
  have hheld : (d.hold (Pass.invoke prepared.logged step inputs answers)).run
      (.start (world, log)) = _ :=
    prepared.hold_invoke_logged step inputs answers d (.start world) log
  rw [outcome, hd.observe_pass] at hlast
  -- Only a pass that awaits would go on to another; then there are no calls left to make.
  rcases hpass : (d.hold (Pass.invoke prepared step inputs answers)).run (.start world) with
    ⟨⟨_ | _, machine⟩, pass⟩ | ⟨e | s, pass⟩ <;> rw [hpass] at hheld hlast
  case error.awaiting =>
    obtain rfl : remaining = 0 := hlast.resolve_right fun h => h s pass rfl
    rw [renderWith_of_awaiting_zero hlogged step inputs hheld]
    rfl
  all_goals
    rw [renderWith_eq_ofPass hlogged step inputs remaining, hheld]
    · rfl
    · intro s pass' hawaits
      rw [hheld] at hawaits
      cases hawaits

/-- After `round`, the `log` has got the calls of its pass and the awaited call at its end. -/
theorem renderWith_logged_of_made {round : Round ω} (remaining : Nat)
    (hmade : round.Made prepared step inputs answers world) :
    prepared.logged.renderWith step inputs (remaining + 1) answers (world, log) =
      let log' := log ++ prepared.callsInPass step inputs answers d (.start world) ++
        [⟨round.directive.awaited, round.call step inputs⟩]
      match round.reply.result with
      | .error e => (⟨round.reply.outputs, .error e⟩, round.world, log')
      | .ok text =>
        prepared.logged.renderWith step inputs remaining
          (answers.insert round.key (round.answer text)) (round.world, log') := by
  have hlogged : prepared.logged.IsDialogue d := hd
  have hheld : (d.hold (Pass.invoke prepared.logged step inputs answers)).run
      (.start (world, log)) = _ :=
    prepared.hold_invoke_logged step inputs answers d (.start world) log
  have hpass := hmade.suspended
  rw [outcome, hd.observe_pass] at hpass
  rw [hpass] at hheld
  have hfound : prepared.logged.directives[round.suspension.occurrence]? =
      some (round.occurrence, round.directive.logged) := by
    rw [directives_logged, hmade.found]
    rfl
  -- The directive with a log replies as the directive does, and notes the call behind those of the
  -- pass.
  have hreplied : ∀ noted, round.suspension.run round.directive.logged round.occurrence.name step
      inputs (round.pass.withLog noted).outputs (round.pass.withLog noted).world =
        (round.reply, round.world, noted ++ [⟨round.directive.awaited, round.call step inputs⟩]) :=
    fun noted => round.directive.run_logged noted hmade.replied
  rw [renderWith_of_awaiting hlogged step inputs remaining hheld hfound, hreplied]
  rfl

/-- Every `entry` that the calls of a pass add to the log is the call of a question of the
rendering. -/
theorem asks_of_mem_callsInPass {entry : LoggedCall}
    (h : entry ∈ log ++ prepared.callsInPass step inputs answers d (.start world)) :
    entry ∈ log ∨ ∃ question, prepared.Asks step inputs answers world question ∧
      prepared.callTo step inputs question = some entry := by
  refine (List.mem_append.1 h).imp id fun hcalls => ?_
  obtain ⟨question, hquestion, hcall⟩ := exists_question_of_mem_callsInPass hcalls
  rw [← hd.questions_eq] at hquestion
  exact ⟨question, ⟨[], answers, world, .none, hquestion⟩, hcall⟩

/-- The awaited call of `round`, too, is the call of a question of the rendering. -/
theorem asks_of_mem_round {entry : LoggedCall} {round : Round ω}
    (hmade : round.Made prepared step inputs answers world)
    (h : entry ∈ log ++ prepared.callsInPass step inputs answers d (.start world) ++
      [⟨round.directive.awaited, round.call step inputs⟩]) :
    entry ∈ log ∨ ∃ question, prepared.Asks step inputs answers world question ∧
      prepared.callTo step inputs question = some entry := by
  rcases List.mem_append.1 h with hmem | hmem
  · exact asks_of_mem_callsInPass hd log hmem
  · rw [List.mem_singleton.1 hmem]
    obtain ⟨question, hquestion, hcall⟩ := exists_question_of_made hmade
    exact .inr ⟨question, ⟨[], answers, world, .none, hquestion⟩, hcall⟩

end Log

/-- Every `entry` in the log of a rendering was there before, or is the call of a question that the
rendering comes to. -/
theorem asks_of_mem_log {remaining : Nat} {answers : Answers} {world : ω} {log : CallLog}
    {entry : LoggedCall}
    (h : entry ∈ (prepared.logged.renderWith step inputs remaining answers (world, log)).2.2) :
    entry ∈ log ∨ ∃ question, prepared.Asks step inputs answers world question ∧
      prepared.callTo step inputs question = some entry := by
  -- On the calls that are left. A round makes one of them and goes on with its reply and the log so
  -- far.
  induction remaining generalizing answers world log with
  | zero =>
    obtain ⟨d, hd⟩ := prepared.exists_dialogue
    rw [log_of_last hd log 0 (.inl rfl)] at h
    exact asks_of_mem_callsInPass hd log h
  | succ remaining ih =>
    obtain ⟨d, hd⟩ := prepared.exists_dialogue
    by_cases hawaits : ∃ s pass,
      prepared.outcome step inputs answers world = .error (.awaiting s) pass
    · obtain ⟨s, pass, hpass⟩ := hawaits
      obtain ⟨round, hmade⟩ := exists_made hpass
      have hround := @asks_of_mem_round _ _ _ _ _ hd _ _ log entry _ hmade
      rw [renderWith_logged_of_made hd log remaining hmade] at h
      cases hresult : round.reply.result with
      | error e =>
        rw [hresult] at h
        exact hround h
      | ok text =>
        rw [hresult] at h
        rcases ih h with hmem | ⟨question, hasks, hcall⟩
        · exact hround hmem
        -- A question of the rest is one of the whole rendering, as the rest starts with the reply.
        · exact .inr ⟨question, hasks.of_made hmade hresult, hcall⟩
    · rw [log_of_last hd log _ (.inr fun s pass hpass => hawaits ⟨s, pass, hpass⟩)] at h
      exact asks_of_mem_callsInPass hd log h

end Prepared

/-- What a directive receives as the argument `key` for a variable path at which the rendering has
`found`, when its step knows the variables `known`. Nothing is said of a text in double braces with
no path between them. -/
structure ReceivesPath (arguments : Arguments) (key : String) (found : Option Value)
    (known : String → Option Value) : Prop where
  /-- A path that leads nowhere or to null is received as null. -/
  absent : (∀ v, found = some v → v = .null) → arguments.value? key = some .null
  /-- A value that is no reference is received as it is. -/
  plain : ∀ v, found = some v → (∀ text, v = .string text → referenced? text = none) →
    arguments.value? key = some v
  /-- A text that refers to a `path` is received as the value of this path. -/
  named : ∀ text inner path v, found = some (.string text) → referenced? text = some inner →
    Path.parse? inner = some path → path.find? known = some v → v ≠ .null →
    arguments.value? key = some v
  /-- If the `path` leads nowhere or to null, the empty text is received. -/
  unnamed : ∀ text inner path, found = some (.string text) → referenced? text = some inner →
    Path.parse? inner = some path → (∀ v, path.find? known = some v → v = .null) →
    arguments.value? key = some (.string "")

/-- A directive receives for a path what its value stands for. -/
theorem Occurrence.receivesPath (o : Occurrence) (scope : Path → Option Value)
    (outputs inputs : Variables) {key : String} {item : ArgumentItem} {path : Path}
    (hlast : ArgumentItem.last? o.arguments key = some item) (hpath : item.source = .path path) :
    ReceivesPath (o.resolve scope outputs inputs) key (scope path) (layered outputs inputs) := by
  have hvalue : (o.resolve scope outputs inputs).value? key =
      some (((scope path).getD .null).dereference (layered outputs inputs)) := by
    rw [resolve, Arguments.value?_resolve (Arguments.nodup_keys_ofItems _ _),
      Arguments.value?_ofItems, hlast, Option.map_some, Option.map_some, ArgumentItem.evaluate,
      hpath]
  -- The value at the path decides: nothing or null, no reference, a reference that leads on or one
  -- that does not.
  constructor
  case absent =>
    intro habsent
    rw [hvalue]
    cases hfound : scope path with
    | none => rfl
    | some v => rw [habsent v hfound]; rfl
  case plain =>
    intro v hfound hplain
    rw [hvalue, hfound]
    exact congrArg some (Value.dereference_of_not_referenced _ hplain)
  case named =>
    intro text inner target v hfound hreferenced htarget hv hne
    rw [hvalue, hfound, Option.getD_some, Value.dereference_of_referenced _ hreferenced, htarget,
      Option.bind_some, hv, Option.bind_some, Value.nonNull?_of_ne hne, Option.getD_some]
  case unnamed =>
    intro text inner target hfound hreferenced htarget hnowhere
    rw [hvalue, hfound, Option.getD_some, Value.dereference_of_referenced _ hreferenced, htarget,
      Option.bind_some]
    cases hv : target.find? (layered outputs inputs) with
    | none => rfl
    | some v => rw [hnowhere v hv]; rfl

/-- The `entry` is a call that a pass over `body` comes to, and its directive receives every path
that is written as an argument as the values of variables at this point say. If a name is written
more than once, the last argument with it counts. -/
def ReceivesPaths (registry : Registry ω) (step : String) (inputs : Variables) (body : String)
    (world : ω) (entry : LoggedCall) : Prop :=
  ∃ prepared question o directive, prepare registry inputs body = .ok prepared ∧
    prepared.Asks step inputs ∅ world question ∧
    prepared.directives[question.id]? = some (o, directive) ∧
    entry = ⟨directive.awaited, question.host.callOf step inputs question.id o.name
      (o.resolve question.scope question.host.outputs inputs)⟩ ∧
    ∀ key item path, ArgumentItem.last? o.arguments key = some item → item.source = .path path →
      ReceivesPath entry.call.arguments key (question.scope path)
        (layered question.host.outputs inputs)

/-- The directives of all calls that a rendering makes receive for a path the value that it has
where the rendering has come to, unless this is a text that is a single reference. Then they receive
the value of the path between the braces. -/
theorem receivesPaths_of_mem_callsMade (registry : Registry ω) (step : String) (inputs : Variables)
    (body : String) (world : ω) (entry : LoggedCall)
    (hentry : entry ∈ callsMade registry step inputs body world) :
    ReceivesPaths registry step inputs body world entry := by
  unfold callsMade render at hentry
  cases hprepare : prepare registry inputs body with
  | error e =>
    -- A body that cannot be read calls nothing.
    have hlogged : prepare registry.logged inputs body = .error e := by
      rw [prepare_logged, hprepare]
      rfl
    rw [hlogged] at hentry
    exact absurd hentry List.not_mem_nil
  | ok prepared =>
    have hlogged : prepare registry.logged inputs body = .ok prepared.logged := by
      rw [prepare_logged, hprepare]
      rfl
    rw [hlogged] at hentry
    obtain ⟨question, hasks, hcall⟩ :=
      (Prepared.asks_of_mem_log hentry).resolve_left List.not_mem_nil
    obtain ⟨⟨o, directive⟩, hsome, rfl⟩ := Option.map_eq_some_iff.1 hcall
    refine ⟨prepared, question, o, directive, hprepare, hasks, hsome, rfl, ?_⟩
    exact fun key item path hlast hpath => o.receivesPath _ _ _ hlast hpath

/-- A directive that runs in place and shows its argument. -/
def mirroring : Registry Nat :=
  [("echo", { showing with awaited := false })]

/-- A name that contains double braces. -/
def bracedInputs : Variables :=
  [("name", .string "\x7b\x7bAnn\x7d\x7d Lee")]

/-- The name is received as it is: its text is not a reference as a whole. -/
theorem receivesPaths_mirroring :
    ∃ entry ∈ callsMade mirroring "greeting" bracedInputs "{% echo v=name %}" 0,
      entry.call.arguments = [("v", .string "\x7b\x7bAnn\x7d\x7d Lee")] ∧
        ReceivesPaths mirroring "greeting" bracedInputs "{% echo v=name %}" 0 entry := by
  have hcalls : (callsMade mirroring "greeting" bracedInputs "{% echo v=name %}" 0).map
      (fun entry => entry.call.arguments) = [[("v", .string "\x7b\x7bAnn\x7d\x7d Lee")]] := by
    decide +kernel
  obtain ⟨entry, hmem, harguments⟩ := List.mem_map.1 (hcalls ▸ List.mem_singleton_self _)
  exact ⟨entry, hmem, harguments, receivesPaths_of_mem_callsMade _ _ _ _ _ entry hmem⟩

/-- A greeting name that looks like a reference, and what it refers to. -/
def referringInputs : Variables :=
  [("name", .string "\x7b\x7b secret \x7d\x7d"), ("secret", .string "s3cret")]

/-- The text of the input `name` is taken for a reference to another input. -/
theorem callsMade_mirroring_referring :
    (prepare mirroring referringInputs "{% echo v=name %}").toOption.map (fun prepared =>
        (prepared.questions "greeting" referringInputs ∅ 0).map fun question =>
          ((prepared.directives[question.id]?).map fun entry => entry.1.arguments,
            question.scope ⟨"name", []⟩)) =
      some [(some [⟨"v", .path ⟨"name", []⟩⟩], some (.string "\x7b\x7b secret \x7d\x7d"))] ∧
    (callsMade mirroring "greeting" referringInputs "{% echo v=name %}" 0).map
        (fun entry => entry.call.arguments) =
      [[("v", .string "s3cret")]] := by
  decide +kernel

end Promptbook
