import Promptbook.Template.Render

/-!
# Renderings as Dialogues

A rendering deals with its host through calls only: it asks for a directive, shows the host the
values that it can look up, and goes on with the answer. So what remains of a rendering is a tree,
`Dialogue`, that branches at every call on what the host may answer.

* `Dialogue.hold call d` — the dialogue `d`, held with a host whose answers are given by `call`.
* `observe` — a result of a rendering as the host sees it: a fault of the template is an outcome
  like any other, and only a failing call ends the rendering from outside.
* `exists_dialogue` — for all nodes and every state of the machine there is one dialogue such that,
  whatever the host is and whatever it answers, rendering the nodes is holding that dialogue.

Facts about several renderings of the same nodes with different hosts are thus proved by induction
on a dialogue, without another look at the tags of the template.
-/

namespace Promptbook.Template

variable {ε σ α β : Type}

/-- The answers of a host to calls of its directives. -/
abbrev Host (ε σ : Type) :=
  Nat → (Path → Option Value) → EStateM ε σ (Option String × Variables)

/-- What remains of a rendering whose outcome is of type `α`, as its host sees it. -/
inductive Dialogue (α : Type) where
  /-- The rendering is over, with `outcome`. -/
  | finished (outcome : α)
  /-- The rendering calls the directive with the number `id`, lets it look up the values at paths in
  `scope`, and goes on with what the host answers. -/
  | asks (id : Nat) (scope : Path → Option Value) (next : Option String × Variables → Dialogue α)

namespace Dialogue

/-- Hold a dialogue with the host `call`. -/
def hold (call : Host ε σ) : Dialogue α → EStateM ε σ α
  | finished outcome => pure outcome
  | asks id scope next => call id scope >>= fun answer => (next answer).hold call

/-- The dialogue that goes on with `f` once another one is over. -/
def andThen (f : α → Dialogue β) : Dialogue α → Dialogue β
  | finished outcome => f outcome
  | asks id scope next => asks id scope fun answer => (next answer).andThen f

@[simp]
theorem run_hold_finished (call : Host ε σ) (outcome : α) (host : σ) :
    ((finished outcome).hold call).run host = .ok outcome host := rfl

/-- A dialogue that asks gets an answer from the host and goes on in its new state. -/
theorem run_hold_asks (call : Host ε σ) (id : Nat) (scope : Path → Option Value)
    (next : Option String × Variables → Dialogue α) (host : σ) :
    ((asks id scope next).hold call).run host =
      match (call id scope).run host with
      | .ok answer host' => ((next answer).hold call).run host'
      | .error e host' => .error e host' := by
  rw [hold, EStateM.run_bind]
  cases (call id scope).run host <;> rfl

/-- To hold two dialogues in a row is to hold the first, and the second from the state that it
leaves. -/
theorem run_hold_andThen (call : Host ε σ) (f : α → Dialogue β) (d : Dialogue α) (host : σ) :
    ((d.andThen f).hold call).run host =
      match (d.hold call).run host with
      | .ok outcome host' => ((f outcome).hold call).run host'
      | .error e host' => .error e host' := by
  induction d generalizing host with
  | finished outcome => rfl
  | asks id scope next ih =>
    rw [andThen, run_hold_asks, run_hold_asks]
    cases (call id scope).run host with
    | ok answer host' => exact ih answer host'
    | error e host' => rfl

end Dialogue

/-- The `machine` with another `host`. -/
def Machine.withHost {τ : Type} (machine : Machine τ) (host : σ) : Machine σ :=
  { machine with host := host }

/-- How a rendering ends unless a call fails: its value or a fault of the template, and the machine
without its host. -/
abbrev Ending (α : Type) := Except Fault α × Machine Unit

/-- A result of a rendering as its host sees it. -/
def observe : EStateM.Result (Stop ε) (Machine σ) α → EStateM.Result ε σ (Ending α)
  | .ok a machine => .ok (.ok a, machine.withHost ()) machine.host
  | .error (.fault f) machine => .ok (.error f, machine.withHost ()) machine.host
  | .error (.host e) machine => .error e machine.host

/-- A part of a rendering that is open to every host. -/
abbrev OpenRun (α : Type) := ∀ {ε σ : Type}, Host ε σ → Run ε σ α

/-- From the state `machine` on, `part` is a dialogue with its host, the same one for all hosts. -/
def IsDialogue (machine : Machine Unit) (part : OpenRun α) : Prop :=
  ∃ d : Dialogue (Ending α), ∀ {ε σ : Type} (call : Host ε σ) (host : σ),
    observe ((part call).run (machine.withHost host)) = (d.hold call).run host

section Parts

variable {machine : Machine Unit}

/-- A `part` is a dialogue if it calls no directive, and neither reads nor changes the host. -/
theorem isDialogue_of_silent {part : OpenRun α} (ending : Ending α)
    (h : ∀ {ε σ : Type} (call : Host ε σ) (host : σ),
      observe ((part call).run (machine.withHost host)) = .ok ending host) :
    IsDialogue machine part :=
  ⟨.finished ending, h⟩

/-- Two parts in a row are a dialogue if both are. -/
theorem IsDialogue.bind {part : OpenRun α} {rest : α → OpenRun β} (hpart : IsDialogue machine part)
    (hrest : ∀ a machine', IsDialogue machine' (rest a)) :
    IsDialogue machine fun call => part call >>= fun a => rest a call := by
  obtain ⟨d, hd⟩ := hpart
  -- The second part has a dialogue for every value and machine that the first may end with.
  have hrest' : ∀ done : α × Machine Unit, ∃ d' : Dialogue (Ending β),
      ∀ {ε σ : Type} (call : Host ε σ) (host : σ),
        observe ((rest done.1 call).run (done.2.withHost host)) = (d'.hold call).run host :=
    fun done => hrest done.1 done.2
  obtain ⟨after, hafter⟩ := Classical.skolem.1 hrest'
  refine ⟨d.andThen fun
    | (.ok a, machine') => after (a, machine')
    | (.error f, machine') => .finished (.error f, machine'), fun call host => ?_⟩
  rw [Dialogue.run_hold_andThen, ← hd call host, EStateM.run_bind]
  cases (part call).run (machine.withHost host) with
  | ok a machine' => exact hafter (a, machine'.withHost ()) call machine'.host
  | error stop machine' => cases stop <;> rfl

/-- A computation without effects is a dialogue. -/
theorem isDialogue_ofExcept (x : Except Fault α) : IsDialogue machine fun _ => Run.ofExcept x := by
  cases x with
  | ok a => exact isDialogue_of_silent (.ok a, machine) fun _ _ => rfl
  | error f => exact isDialogue_of_silent (.error f, machine) fun _ _ => rfl

/-- To give the value `a` and do nothing else is a dialogue. -/
theorem isDialogue_pure (a : α) : IsDialogue machine fun _ => pure a :=
  isDialogue_of_silent (.ok a, machine) fun _ _ => rfl

/-- To append `s` to the text is a dialogue. -/
theorem isDialogue_emit (s : String) : IsDialogue machine fun _ => Run.emit s :=
  isDialogue_of_silent (.ok (), { machine with out := machine.out ++ s }) fun _ _ => rfl

/-- To give a variable a value is a dialogue. -/
theorem isDialogue_assign (name : String) (operand : Operand) :
    IsDialogue machine fun _ => Run.assign name operand :=
  isDialogue_of_silent
    (.ok (), { machine with assigned := machine.assigned.put name operand }) fun _ _ => rfl

/-- To set the pending interrupt is a dialogue. -/
theorem isDialogue_interrupt (i : Option Interrupt) :
    IsDialogue machine fun _ => Run.interrupt i :=
  isDialogue_of_silent (.ok (), { machine with interrupt := i }) fun _ _ => rfl

/-- To publish variables is a dialogue. -/
theorem isDialogue_publish (published : Variables) :
    IsDialogue machine fun _ => Run.publish published := by
  induction published generalizing machine with
  | nil => exact isDialogue_pure ()
  | cons entry rest ih =>
    obtain ⟨name, v⟩ := entry
    simp only [Run.publish]
    split
    · exact (isDialogue_assign name (.value v)).bind fun _ _ => ih
    · exact isDialogue_of_silent (.error .numberTooLarge, machine) fun _ _ => rfl

/-- A call that the host answers publishes variables and shows a text. -/
theorem run_call_of_ok (setting : Setting ε σ) {frames : Frames} {id : Nat} {machine : Machine σ}
    {answer : Option String × Variables} {host : σ}
    (h : (setting.call id (valueAt (lookup setting.globals frames machine))).run machine.host =
      .ok answer host) :
    (Run.call setting frames id).run machine =
      (Run.publish answer.2 >>= fun _ => Run.emit (answer.1.getD "")).run
        (machine.withHost host) := by
  rw [EStateM.run] at h
  simp only [Run.call, EStateM.run_bind, EStateM.run_get, h]
  rfl

/-- A call that fails with `e` ends the rendering. -/
theorem run_call_of_error (setting : Setting ε σ) {frames : Frames} {id : Nat}
    {machine : Machine σ} {e : ε} {host : σ}
    (h : (setting.call id (valueAt (lookup setting.globals frames machine))).run machine.host =
      .error e host) :
    (Run.call setting frames id).run machine = .error (.host e) (machine.withHost host) := by
  rw [EStateM.run] at h
  simp only [Run.call, EStateM.run_bind, EStateM.run_get, h]
  rfl

/-- To call a directive is a dialogue: this is the one place where the host is asked. -/
theorem isDialogue_call (globals : Variables) (frames : Frames) (id : Nat) :
    IsDialogue machine fun call => Run.call ⟨globals, call⟩ frames id := by
  have hrest : ∀ answer : Option String × Variables, IsDialogue machine fun _ =>
      Run.publish answer.2 >>= fun _ => Run.emit (answer.1.getD "") :=
    fun answer => (isDialogue_publish answer.2).bind fun _ _ => isDialogue_emit _
  -- There is a dialogue for every answer; together they are what follows the question.
  obtain ⟨next, hnext⟩ := Classical.skolem.1 hrest
  refine ⟨.asks id (valueAt (lookup globals frames machine)) next, fun call host => ?_⟩
  rw [Dialogue.run_hold_asks]
  cases h : (call id (valueAt (lookup globals frames machine))).run host with
  | ok answer host' =>
    rw [run_call_of_ok ⟨globals, call⟩ h]
    exact hnext answer call host'
  | error e host' =>
    rw [run_call_of_error ⟨globals, call⟩ h]
    rfl

/-- A `part` is a dialogue if it does from this state of the machine on what another one does. It
may look at the machine first, apart from the host. -/
theorem IsDialogue.of_run_eq {part other : OpenRun α} (hother : IsDialogue machine other)
    (h : ∀ {ε σ : Type} (call : Host ε σ) (host : σ),
      (part call).run (machine.withHost host) = (other call).run (machine.withHost host)) :
    IsDialogue machine part := by
  obtain ⟨d, hd⟩ := hother
  exact ⟨d, fun call host => (congrArg observe (h call host)).trans (hd call host)⟩

/-- A `part` whose text is taken away from the text of the whole is a dialogue if the part is. -/
theorem isDialogue_textOf {part : OpenRun Unit} (h : ∀ machine', IsDialogue machine' part) :
    IsDialogue machine fun call => Run.textOf (part call) := by
  have hempty : IsDialogue machine fun _ => modify fun m => { m with out := "" } :=
    isDialogue_of_silent (.ok (), { machine with out := "" }) fun _ _ => rfl
  have hrestore : ∀ machine' : Machine Unit, IsDialogue machine' fun _ => do
      let text := (← get).out
      modify fun m => { m with out := machine.out }
      return text :=
    fun machine' => isDialogue_of_silent
      (.ok machine'.out, { machine' with out := machine.out }) fun _ _ => rfl
  have hall := hempty.bind fun _ _ => (h _).bind fun _ machine' => hrestore machine'
  exact hall.of_run_eq fun _ _ => rfl

/-- Rounds of a loop are a dialogue if each of them is. -/
theorem isDialogue_eachItem {step : Nat → Value → OpenRun Unit}
    (h : ∀ i v machine', IsDialogue machine' (step i v)) (i : Nat) (items : List Value) :
    IsDialogue machine fun call => Run.eachItem (fun i v => step i v call) i items := by
  induction items generalizing i machine with
  | nil => exact isDialogue_pure ()
  | cons v rest ih =>
    refine IsDialogue.bind (h i v machine) fun _ machine' => ?_
    -- Whether the loop is left is known from the machine, before the interrupt is taken back.
    have hgo : IsDialogue machine' fun call => Run.interrupt none >>= fun _ =>
        if machine'.interrupt == some .leave then pure ()
        else Run.eachItem (fun i v => step i v call) (i + 1) rest := by
      refine (isDialogue_interrupt none).bind fun _ machine'' => ?_
      split
      · exact isDialogue_pure ()
      · exact ih (i + 1)
    exact hgo.of_run_eq fun _ _ => rfl

/-- Cells of a table are a dialogue if each of them is. -/
theorem isDialogue_eachCell {step : Nat → Value → OpenRun Unit}
    (h : ∀ i v machine', IsDialogue machine' (step i v)) (i : Nat) (items : List Value) :
    IsDialogue machine fun call => Run.eachCell (fun i v => step i v call) i items := by
  induction items generalizing i machine with
  | nil => exact isDialogue_pure ()
  | cons v rest ih => exact (h i v machine).bind fun _ _ => ih (i + 1)

/-- To show `s` under a condition is a dialogue. -/
theorem isDialogue_emitIf (c : Bool) (s : String) :
    IsDialogue machine fun _ => if c then Run.emit s else pure () := by
  cases c with
  | true => exact isDialogue_emit s
  | false => exact isDialogue_pure ()

/-- A cell of a table is a dialogue if its `content` is. -/
theorem isDialogue_renderCell {content : OpenRun Unit} (h : ∀ machine', IsDialogue machine' content)
    (i size columns : Nat) :
    IsDialogue machine fun call => renderCell (content call) i size columns := by
  have hrow : IsDialogue machine fun _ => if i % columns == 0 then
      Run.emit ("<tr class=\"row" ++ toString (i / columns + 1) ++ "\">") else pure () :=
    isDialogue_emitIf _ _
  have hcell := hrow.bind fun _ _ =>
    (isDialogue_emit ("<td class=\"col" ++ toString (i % columns + 1) ++ "\">")).bind fun _ _ =>
    (h _).bind fun _ _ => (isDialogue_emit "</td>").bind fun _ _ =>
      isDialogue_emitIf (i % columns + 1 == columns || i + 1 == size) "</tr>"
  refine hcell.of_run_eq fun call host => ?_
  unfold renderCell
  -- Where a row begins and ends is known from the numbers alone.
  cases i % columns == 0 <;> cases i % columns + 1 == columns || i + 1 == size <;> rfl

/-- Show the value that a cycle has come to. -/
def emitCycled (scope : Scope) (found : Option Expression) : Run ε σ Unit :=
  match found with
  | none => throw (.fault (.unexpected "value of the cycle"))
  | some e => do
    let operand ← Run.ofExcept (e.evaluate scope)
    Run.emit operand.text

/-- To show the next value of a cycle is a dialogue. -/
theorem isDialogue_renderCycle (scope : Scope) (key : String) (values : List Expression) :
    IsDialogue machine fun _ => renderCycle scope key values := by
  let i := (machine.cycles.value? key).getD 0
  let cycles := machine.cycles.put key ((i + 1) % values.length)
  -- The count is read off the machine first, so the two parts may speak of it as it is.
  have hcount : IsDialogue machine fun _ => modify fun m => { m with cycles := cycles } :=
    isDialogue_of_silent (.ok (), { machine with cycles := cycles }) fun _ _ => rfl
  have hshow : ∀ machine', IsDialogue machine' fun _ => emitCycled scope values[i]? := by
    intro machine'
    cases values[i]? with
    | none => exact isDialogue_of_silent (.error _, machine') fun _ _ => rfl
    | some e => exact (isDialogue_ofExcept _).bind fun _ _ => isDialogue_emit _
  refine (hcount.bind fun _ machine' => hshow machine').of_run_eq fun _ _ => ?_
  unfold emitCycled
  rfl

/-- To show a counter and count is a dialogue. -/
theorem isDialogue_renderCounter (name : String) (before after : Int) :
    IsDialogue machine fun _ => renderCounter name before after :=
  isDialogue_of_silent
    (.ok (), { machine with
      counters := machine.counters.put name ((machine.counters.value? name).getD 0 + after)
      out := machine.out ++ toString ((machine.counters.value? name).getD 0 + before) })
    fun _ _ => rfl

end Parts

section Nodes

variable (globals : Variables)

/-- To look variables up first is a dialogue, since what is found does not depend on the host. -/
theorem isDialogue_scopeOf {machine : Machine Unit} {frames : Frames} {rest : Scope → OpenRun α}
    (h : IsDialogue machine (rest (lookup globals frames machine))) :
    IsDialogue machine fun call =>
      scopeOf ⟨globals, call⟩ frames >>= fun scope => rest scope call :=
  h.of_run_eq fun _ _ => rfl

mutual

/-- Rendering `node` is a dialogue. -/
theorem isDialogue_renderNode (node : Node) (frames : Frames) (machine : Machine Unit) :
    IsDialogue machine fun call => renderNode ⟨globals, call⟩ frames node := by
  match node with
  -- Expressions are evaluated in the machine as it is. Only a call asks the other side, here or in
  -- one of the bodies.
  | .text s => exact isDialogue_emit s
  | .output chain =>
    exact isDialogue_scopeOf globals
      ((isDialogue_ofExcept _).bind fun operand _ => isDialogue_emit operand.text)
  | .call id => exact isDialogue_call globals frames id
  | .assign name chain =>
    exact isDialogue_scopeOf globals
      ((isDialogue_ofExcept _).bind fun operand _ => isDialogue_assign name operand.ordered)
  | .capture name body =>
    simp only [renderNode]
    exact (isDialogue_textOf fun machine' => isDialogue_renderNodes body frames machine').bind
      fun text _ => isDialogue_assign name (.value (.string text))
  | .increment name => exact isDialogue_renderCounter name 0 1
  | .decrement name => exact isDialogue_renderCounter name (-1) (-1)
  | .cycle key values =>
    exact isDialogue_scopeOf globals (isDialogue_renderCycle _ key values)
  | .branch expected condition body otherwise =>
    simp only [renderNode]
    refine isDialogue_scopeOf globals ((isDialogue_ofExcept _).bind fun holds machine' => ?_)
    split
    · exact isDialogue_renderNodes body frames machine'
    · exact isDialogue_renderNodes otherwise frames machine'
  | .select subject arms otherwise =>
    simp only [renderNode]
    refine isDialogue_scopeOf globals ((isDialogue_ofExcept _).bind fun operand machine' => ?_)
    refine (isDialogue_renderArms arms frames operand machine').bind fun found machine'' => ?_
    split
    · exact isDialogue_pure ()
    · exact isDialogue_renderNodes otherwise frames machine''
  -- The body is used at every machine in which an item may begin.
  | .loop head body otherwise =>
    simp only [renderNode]
    refine isDialogue_scopeOf globals ((isDialogue_ofExcept _).bind fun items machine' => ?_)
    split
    · exact isDialogue_renderNodes otherwise frames machine'
    · refine isDialogue_eachItem (fun i v machine'' => ?_) 0 items
      exact isDialogue_renderNodes body (loopFrame head.name _ i items.length v ++ frames) machine''
  | .table head body =>
    simp only [renderNode]
    refine isDialogue_scopeOf globals ((isDialogue_ofExcept _).bind fun items machine' => ?_)
    refine (isDialogue_ofExcept _).bind fun columns machine'' => ?_
    exact isDialogue_eachCell (fun i v _ => isDialogue_renderCell (fun machine₃ =>
      isDialogue_renderNodes body (cellFrame head.name i items.length _ v ++ frames) machine₃)
        i items.length _) 0 items
  | .whenChanged body =>
    simp only [renderNode]
    refine (isDialogue_textOf fun machine' => isDialogue_renderNodes body frames machine').bind
      fun text machine' => ?_
    -- Whether the text is shown again is decided by the machine alone, without a question.
    have hshow : IsDialogue machine' fun _ =>
        if machine'.shown == some text then pure ()
        else modify (fun m => { m with shown := some text }) >>= fun _ => Run.emit text := by
      split
      · exact isDialogue_pure ()
      · exact isDialogue_of_silent
          (.ok (), { machine' with shown := some text, out := machine'.out ++ text }) fun _ _ => rfl
    exact hshow.of_run_eq fun _ _ => rfl
  | .leave => exact isDialogue_interrupt (some .leave)
  | .skip => exact isDialogue_interrupt (some .skip)
  -- No partial is ever found: what is evaluated before the error asks nothing.
  | .partialTemplate e repeated =>
    simp only [renderNode]
    refine isDialogue_scopeOf globals ((isDialogue_ofExcept _).bind fun operand machine' => ?_)
    cases repeated with
    | none => exact isDialogue_of_silent (.error _, machine') fun _ _ => rfl
    | some source =>
      have hunused : IsDialogue machine' fun _ =>
          List.isEmpty <$> Run.ofExcept (source.evaluate (lookup globals frames machine)) := by
        cases source.evaluate (lookup globals frames machine) with
        | ok items => exact isDialogue_of_silent (.ok items.isEmpty, machine') fun _ _ => rfl
        | error f => exact isDialogue_of_silent (.error f, machine') fun _ _ => rfl
      refine hunused.bind fun unused machine'' => ?_
      cases unused with
      | true => exact isDialogue_pure ()
      | false => exact isDialogue_of_silent (.error _, machine'') fun _ _ => rfl
  | .nothing => exact isDialogue_pure ()

/-- Rendering `nodes` one after another is a dialogue. -/
theorem isDialogue_renderNodes (nodes : List Node) (frames : Frames) (machine : Machine Unit) :
    IsDialogue machine fun call => renderNodes ⟨globals, call⟩ frames nodes := by
  match nodes with
  | [] => exact isDialogue_pure ()
  | node :: rest =>
    simp only [renderNodes]
    refine (isDialogue_renderNode node frames machine).bind fun _ machine' => ?_
    have hrest : IsDialogue machine' fun call =>
        if machine'.interrupt.isSome then pure () else renderNodes ⟨globals, call⟩ frames rest := by
      split
      · exact isDialogue_pure ()
      · exact isDialogue_renderNodes rest frames machine'
    exact hrest.of_run_eq fun _ _ => rfl

/-- Rendering the `arms` of a selection is a dialogue. -/
theorem isDialogue_renderArms (arms : List (List Expression × List Node)) (frames : Frames)
    (subject : Operand) (machine : Machine Unit) :
    IsDialogue machine fun call => renderArms ⟨globals, call⟩ frames subject arms := by
  match arms with
  | [] => exact isDialogue_pure false
  | (values, body) :: rest =>
    simp only [renderArms]
    refine isDialogue_scopeOf globals ((isDialogue_ofExcept _).bind fun found machine' => ?_)
    split
    · exact (isDialogue_renderNodes body frames machine').bind fun _ _ => isDialogue_pure true
    · exact isDialogue_renderArms rest frames subject machine'

end

/-- A whole rendering of `nodes` is a dialogue with its host, the same one for all hosts. -/
theorem exists_dialogue (nodes : List Node) :
    ∃ d : Dialogue (Ending Unit), ∀ {ε σ : Type} (call : Host ε σ) (host : σ),
      observe ((renderNodes ⟨globals, call⟩ [] nodes).run (.start host)) = (d.hold call).run host :=
  isDialogue_renderNodes globals nodes [] (.start ())

end Nodes

end Promptbook.Template
