import Promptbook.Proofs.Directive.Rounds

/-!
# Rendering with Tables as Lists

A pass counts visits and keeps the positions of fields in hash tables, and so does a rendering with
the replies of awaited calls. It asks these tables for entries only, so lists with the last entry
first serve as well. With lists a rendering can be evaluated by reduction, and what a single body is
rendered to can be decided.

## Main definitions

* `ListedPass`: the state of a pass with lists in place of tables.
* `Pass.ListedBy`, `Answers.ListedBy`: lists that have the entries of the tables.
* `renderListed`: rendering a body with lists.

## Main results

* `ListedPass.sameResult_invoke`: calls of directives come to the same.
* `render_eq_renderListed`: so does rendering a body.
-/

namespace Promptbook

namespace Template

variable {ε σ τ α : Type}

/-- Two results are the same value or the same error, and `R` relates the states that they leave. -/
inductive SameResult (R : σ → τ → Prop) : EStateM.Result ε σ α → EStateM.Result ε τ α → Prop
  /-- Both are the value `a`. -/
  | ok {a : α} {host : σ} {other : τ} (h : R host other) : SameResult R (.ok a host) (.ok a other)
  /-- Both are the error `e`. -/
  | error {e : ε} {host : σ} {other : τ} (h : R host other) :
      SameResult R (.error e host) (.error e other)

/-- A dialogue `d` comes to the same with the hosts `call` and `call'` if these answer every call
alike from states that `R` relates, and leave such states. -/
theorem Dialogue.sameResult_hold {R : σ → τ → Prop} {call : Host ε σ} {call' : Host ε τ}
    (hcall : ∀ id scope host other, R host other →
      SameResult R ((call id scope).run host) ((call' id scope).run other))
    (d : Dialogue α) {host : σ} {other : τ} (h : R host other) :
    SameResult R ((d.hold call).run host) ((d.hold call').run other) := by
  induction d generalizing host other with
  | finished outcome => exact .ok h
  | asks id scope next ih =>
    rw [run_hold_asks, run_hold_asks]
    have hsame := hcall id scope host other h
    generalize (call id scope).run host = result at hsame ⊢
    generalize (call' id scope).run other = result' at hsame ⊢
    cases hsame with
    | ok h' => exact ih _ h'
    | error h' => exact .error h'

end Template

open Template (SameResult Ending)

variable {ω : Type}

/-- The replies of awaited calls by occurrence and visit, the last one first. -/
abbrev AnswerList := List ((Nat × Nat) × Answer)

/-- Looked up by key, `list` has the entries of the table `answers`. -/
def Answers.ListedBy (answers : Answers) (list : AnswerList) : Prop :=
  ∀ key, answers[key]? = list.lookup key

/-- Keeping an `answer` in the table is putting it in front of the list. -/
theorem Answers.ListedBy.insert {answers : Answers} {list : AnswerList}
    (h : answers.ListedBy list) (key : Nat × Nat) (answer : Answer) :
    Answers.ListedBy (answers.insert key answer) ((key, answer) :: list) := by
  intro other
  rw [Std.HashMap.getElem?_insert, List.lookup_cons, BEq.comm]
  cases other == key with
  | true => rfl
  | false => exact h other

/-- Counts by number, the last one first. -/
abbrev CountList := List (Nat × Nat)

/-- The count of `id`, which is zero if `list` has none. -/
def CountList.count (list : CountList) (id : Nat) : Nat :=
  (list.lookup id).getD 0

/-- Looked up by number, `list` has the counts of `table`. -/
def CountList.Lists (list : CountList) (table : Std.HashMap Nat Nat) : Prop :=
  ∀ id, table.getD id 0 = list.count id

/-- Setting a `count` in the table is putting it in front of the list. -/
theorem CountList.Lists.insert {list : CountList} {table : Std.HashMap Nat Nat}
    (h : list.Lists table) (id count : Nat) :
    CountList.Lists ((id, count) :: list) (table.insert id count) := by
  intro other
  rw [Std.HashMap.getD_insert, CountList.count, List.lookup_cons, BEq.comm]
  cases other == id with
  | true => rfl
  | false => exact h other

/-- What the directives of a pass have done so far, with lists in place of tables. -/
structure ListedPass (ω : Type) where
  /-- The outputs. -/
  outputs : Variables
  /-- The position of the next field, by occurrence. -/
  fieldIndexes : CountList
  /-- How often each awaited directive has been met. -/
  visits : CountList
  /-- The world outside. -/
  world : ω

namespace ListedPass

/-- The state at the start of a pass in `world`. -/
def start (world : ω) : ListedPass ω :=
  ⟨[], [], [], world⟩

/-- Put the reply that `list` keeps for the awaited call in, or end the pass if there is none for
arguments that are alike to `arguments`. -/
def replay (list : AnswerList) (id : Nat) (arguments : Arguments) :
    EStateM Interruption (ListedPass ω) (Option String × Variables) := fun pass =>
  let visit := pass.visits.count id
  let met := { pass with visits := (id, visit + 1) :: pass.visits }
  match (list.lookup (id, visit)).filter (·.arguments.alike arguments) with
  | some answer =>
    .ok (answer.text, answer.outputs) { met with
      outputs := answer.outputs
      fieldIndexes := (id, answer.fieldIndex) :: pass.fieldIndexes }
  | none => .error (.awaiting ⟨id, visit, arguments, pass.fieldIndexes.count id⟩) met

/-- Run `directive` in place. -/
def run (step : String) (inputs : Variables) (id : Nat) (name : String) (directive : Directive ω)
    (arguments : Arguments) :
    EStateM Interruption (ListedPass ω) (Option String × Variables) := fun pass =>
  let (reply, world) := directive.run
    ⟨name, ⟨step, inputs, pass.outputs⟩, arguments, pass.fieldIndexes.count id⟩ pass.world
  let received := { pass with
    outputs := reply.outputs
    fieldIndexes := (id, reply.fieldIndex) :: pass.fieldIndexes
    world := world }
  match reply.result with
  | .ok text => .ok (text, reply.outputs) received
  | .error e => .error (.failed e) received

/-- Call the directive of the occurrence `id` during a pass. -/
def invoke (prepared : Prepared ω) (step : String) (inputs : Variables) (list : AnswerList)
    (id : Nat) (scope : Path → Option Value) :
    EStateM Interruption (ListedPass ω) (Option String × Variables) := fun pass =>
  match prepared.directives[id]? with
  | none => .ok (none, pass.outputs) pass
  | some (o, directive) =>
    let arguments := o.resolve scope pass.outputs inputs
    if directive.awaited then replay list id arguments pass
    else run step inputs id o.name directive arguments pass

end ListedPass

/-- The parts of `listed` are those of `pass`, with lists that have the entries of its tables. -/
structure Pass.ListedBy (pass : Pass ω) (listed : ListedPass ω) : Prop where
  /-- The outputs are the same. -/
  outputs : pass.outputs = listed.outputs
  /-- The list of positions has the entries of the table. -/
  fieldIndexes : listed.fieldIndexes.Lists pass.fieldIndexes
  /-- The list of visits has the entries of the table. -/
  visits : listed.visits.Lists pass.visits
  /-- The worlds are the same. -/
  world : pass.world = listed.world

/-- The states at the start of a pass in `world` correspond. -/
theorem Pass.ListedBy.start (world : ω) : (Pass.start world).ListedBy (ListedPass.start world) :=
  ⟨rfl, fun _ => Std.HashMap.getD_empty, fun _ => Std.HashMap.getD_empty, rfl⟩

namespace ListedPass

variable {answers : Answers} {list : AnswerList} {pass : Pass ω} {listed : ListedPass ω}

/-- Replaying an awaited call comes to the same with a `list` as with the table `answers`. -/
theorem sameResult_replay (hlist : answers.ListedBy list) (h : pass.ListedBy listed) (id : Nat)
    (arguments : Arguments) :
    SameResult Pass.ListedBy ((Pass.replay answers id arguments).run pass)
      ((replay list id arguments).run listed) := by
  have hvisit := h.visits id
  have hmet := h.visits.insert id (listed.visits.count id + 1)
  have hfind := hlist (id, pass.visits.getD id 0)
  have hrun : (replay list id arguments).run listed = replay list id arguments listed := rfl
  rw [← hvisit] at hmet
  rw [hrun]
  simp only [replay, ← hvisit, ← hfind]
  -- The list keeps what the table keeps at this visit.
  rcases answers.kept_or_unlike (id, pass.visits.getD id 0) arguments with
    ⟨answer, hkept, harguments⟩ | hopen
  · have hfilter : answers[(id, pass.visits.getD id 0)]?.filter (·.arguments.alike arguments) =
        some answer :=
      Option.filter_eq_some_iff.2 ⟨hkept, harguments⟩
    rw [Pass.run_replay_of_answer _ _ _ hkept harguments]
    simp only [hfilter]
    exact .ok ⟨rfl, h.fieldIndexes.insert id answer.fieldIndex, hmet, h.world⟩
  · have hfilter : answers[(id, pass.visits.getD id 0)]?.filter (·.arguments.alike arguments) =
        none :=
      Option.filter_eq_none_iff.2 fun answer hkept => Bool.eq_false_iff.1 (hopen answer hkept)
    rw [Pass.run_replay_of_unlike _ _ _ hopen, h.fieldIndexes id]
    simp only [hfilter]
    exact .error ⟨h.outputs, h.fieldIndexes, hmet, h.world⟩

/-- Running `directive` in place comes to the same in a pass with lists. -/
theorem sameResult_run (h : pass.ListedBy listed) (step : String) (inputs : Variables) (id : Nat)
    (name : String) (directive : Directive ω) (arguments : Arguments) :
    SameResult Pass.ListedBy ((Pass.run step inputs id name directive arguments).run pass)
      ((run step inputs id name directive arguments).run listed) := by
  obtain ⟨⟨reply, world⟩, hreply⟩ : ∃ r, directive.run
    (pass.callOf step inputs id name arguments) pass.world = r := ⟨_, rfl⟩
  -- What the directive sees of the pass is the same, and so is what it replies.
  have hlisted : directive.run ⟨name, ⟨step, inputs, listed.outputs⟩, arguments,
      listed.fieldIndexes.count id⟩ listed.world = (reply, world) := by
    rw [← h.outputs, ← h.world, ← h.fieldIndexes id]
    exact hreply
  have hreceived : (pass.received id reply world).ListedBy
      { listed with
        outputs := reply.outputs
        fieldIndexes := (id, reply.fieldIndex) :: listed.fieldIndexes
        world := world } :=
    ⟨rfl, h.fieldIndexes.insert id reply.fieldIndex, h.visits, rfl⟩
  have hrun : (run step inputs id name directive arguments).run listed =
      run step inputs id name directive arguments listed := rfl
  rw [Pass.run_run _ _ _ _ hreply, hrun]
  simp only [run, hlisted]
  cases reply.result with
  | ok text => exact .ok hreceived
  | error e => exact .error hreceived

/-- Calling the directive of an occurrence comes to the same in a pass with lists. -/
theorem sameResult_invoke (hlist : answers.ListedBy list) (prepared : Prepared ω) (step : String)
    (inputs : Variables) (id : Nat) (scope : Path → Option Value) (pass : Pass ω)
    (listed : ListedPass ω) (h : pass.ListedBy listed) :
    SameResult Pass.ListedBy ((Pass.invoke prepared step inputs answers id scope).run pass)
      ((invoke prepared step inputs list id scope).run listed) := by
  have hrun : (invoke prepared step inputs list id scope).run listed =
      invoke prepared step inputs list id scope listed := rfl
  rw [hrun]
  -- By the kind of directive, as only replaying and running look at what the two passes differ in.
  cases hsome : prepared.directives[id]? with
  | none =>
    rw [Pass.run_invoke_of_none _ _ _ _ _ _ _ hsome, h.outputs]
    simp only [invoke, hsome]
    exact .ok h
  | some found =>
    obtain ⟨o, directive⟩ := found
    cases hawaited : directive.awaited with
    | true =>
      rw [Pass.run_invoke_of_awaited _ _ _ _ _ _ _ hsome hawaited, h.outputs]
      simp only [invoke, hsome, hawaited, if_true]
      exact sameResult_replay hlist h id _
    | false =>
      rw [Pass.run_invoke_of_immediate _ _ _ _ _ _ _ hsome hawaited, h.outputs]
      simp only [invoke, hsome, hawaited]
      exact sameResult_run h step inputs id o.name directive _

end ListedPass

namespace Prepared

variable (prepared : Prepared ω) (step : String) (inputs : Variables)

/-- What comes of a pass with lists that starts in `world` with the replies in `list`. -/
def outcomeListed (list : AnswerList) (world : ω) :
    EStateM.Result Interruption (ListedPass ω) (Ending Unit) :=
  Template.observe ((Template.renderNodes
    ⟨prepared.globals, ListedPass.invoke prepared step inputs list⟩ [] prepared.nodes).run
      (.start (ListedPass.start world)))

/-- Render a body in passes with lists, with at most `remaining` awaited calls. -/
def renderListed : (remaining : Nat) → AnswerList → ω → Rendering × ω
  | remaining, list, world =>
    match prepared.outcomeListed step inputs list world with
    | .ok (.ok (), machine) pass => (⟨pass.outputs, .ok machine.out⟩, pass.world)
    | .ok (.error f, _) pass => (⟨pass.outputs, .error (faultError f)⟩, pass.world)
    | .error (.failed e) pass => (⟨pass.outputs, .error e⟩, pass.world)
    | .error (.awaiting s) pass =>
      match remaining, prepared.directives[s.occurrence]? with
      | remaining + 1, some (o, directive) =>
        let (reply, world) := s.run directive o.name step inputs pass.outputs pass.world
        match reply.result with
        | .error e => (⟨reply.outputs, .error e⟩, world)
        | .ok text =>
          renderListed remaining
            (((s.occurrence, s.visit),
              ⟨s.arguments, text, reply.outputs, reply.fieldIndex⟩) :: list) world
      | _, _ => (⟨pass.outputs, .error tooManyCalls⟩, pass.world)

/-- A pass comes to the same with a `list` as with the table `answers`. -/
theorem sameResult_outcome {answers : Answers} {list : AnswerList} (hlist : answers.ListedBy list)
    (world : ω) :
    SameResult Pass.ListedBy (prepared.outcome step inputs answers world)
      (prepared.outcomeListed step inputs list world) := by
  obtain ⟨d, hd⟩ := prepared.exists_dialogue
  rw [outcome, outcomeListed, hd.observe_pass, hd]
  exact d.sameResult_hold (ListedPass.sameResult_invoke hlist prepared step inputs) (.start world)

/-- Rendering in passes comes to the same with a `list` as with the table `answers`. -/
theorem renderWith_eq_renderListed (remaining : Nat) {answers : Answers} {list : AnswerList}
    (hlist : answers.ListedBy list) (world : ω) :
    prepared.renderWith step inputs remaining answers world =
      prepared.renderListed step inputs remaining list world := by
  have hsame := prepared.sameResult_outcome step inputs hlist world
  generalize houtcome : prepared.outcome step inputs answers world = result at hsame
  unfold renderListed
  generalize prepared.outcomeListed step inputs list world = listed at hsame ⊢
  cases hsame with
  | @ok ending pass _ h =>
    rw [renderWith_of_closes (.ended houtcome) (Nat.zero_le remaining)]
    obtain ⟨_ | _, machine⟩ := ending <;> simp only [Rendering.ofPass, h.outputs, h.world]
  | @error i pass other h =>
    cases i with
    | failed e =>
      rw [renderWith_of_closes (.failed houtcome) (Nat.zero_le remaining), h.outputs, h.world]
    | awaiting s =>
      cases remaining with
      | zero => simp only [renderWith_of_due houtcome, h.outputs, h.world]
      | succ remaining =>
        -- The round is the one that the pass with the tables makes.
        obtain ⟨round, hmade⟩ := exists_made houtcome
        have hsuspended := hmade.suspended
        rw [houtcome] at hsuspended
        cases hsuspended
        have hreplied : round.suspension.run round.directive round.occurrence.name step inputs
            other.outputs other.world = (round.reply, round.world) := by
          rw [← h.outputs, ← h.world]
          exact hmade.run_suspension
        simp only [hmade.found, hreplied]
        cases hresult : round.reply.result with
        | error e => rw [renderWith_of_closes (.awaitedFailed hmade hresult) (by simp)]
        | ok text =>
          rw [renderWith_of_made remaining hmade hresult]
          exact renderWith_eq_renderListed remaining (hlist.insert _ _) round.world

end Prepared

/-- Render `body` with lists in place of tables. -/
def renderListed (registry : Registry ω) (step : String) (inputs : Variables) (body : String) :
    StateM ω Rendering := fun world =>
  match prepare registry inputs body with
  | .error e => (⟨[], .error e⟩, world)
  | .ok prepared => prepared.renderListed step inputs maxAwaitedCalls [] world

/-- Rendering `body` comes to the same with lists as with tables. -/
theorem render_eq_renderListed (registry : Registry ω) (step : String) (inputs : Variables)
    (body : String) (world : ω) :
    render registry step inputs body world = renderListed registry step inputs body world := by
  unfold render renderListed
  cases prepare registry inputs body with
  | error e => rfl
  | ok prepared =>
    refine prepared.renderWith_eq_renderListed step inputs maxAwaitedCalls (fun key => ?_) world
    rw [Std.HashMap.getElem?_empty, List.lookup_nil]

end Promptbook
