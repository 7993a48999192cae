import Promptbook.Proofs.Directive.Publication

/-!
# Variables that a Template has Bound

The variables that have been assigned do not tell who has bound them: the template, by an assignment
or a capture, or the host, which publishes variables after its calls. A rendering can note it. This
does not disturb the rendering, and wherever the host is called, the notes account for the variables
that have been assigned: apart from those that the template has bound itself, they are the ones that
the host has published.

## Main definitions

* `Point`: a call that a rendering makes, with the variables that the template has bound there.
* `noteNodes`: rendering with notes.
* `Accounts`: notes say which variables have been assigned.
* `Mirrors`: a part of a rendering does the same with notes as without.

## Main results

* `mirrors_noteNodes`: notes do not disturb a rendering and are right after it, by induction on the
  nodes.
* `points_spec`: the points of a rendering are its questions, and the notes are right at all of
  them.
-/

namespace Promptbook.Template

variable {ε σ α β : Type}

/-- A call that a rendering makes, with the variables that the template has bound there. -/
structure Point (σ : Type) extends Question σ where
  /-- The variables of the loops around the call. -/
  frames : Frames
  /-- The names to which the template has given values since the host last published them. -/
  own : List String
  /-- What the host has published, the last publication first. -/
  published : List Variables

/-- A host, with notes on the rendering. -/
structure Noted (σ : Type) where
  /-- The state of the host. -/
  host : σ
  /-- The names to which the template has given values since the host last published them. -/
  own : List String
  /-- What the host has published, the last publication first. -/
  published : List Variables
  /-- The calls so far. -/
  points : List (Point σ)

/-- The host `call` with notes on its calls and on what it publishes, inside of the loops with the
variables `frames`. -/
def Host.noted (call : Host ε σ) (frames : Frames) : Host ε (Noted σ) := fun id scope noted =>
  let points := noted.points ++ [⟨⟨id, scope, noted.host⟩, frames, noted.own, noted.published⟩]
  match (call id scope).run noted.host with
  | .ok answer host =>
    .ok answer ⟨host, noted.own.filter fun name => !answer.2.has name, answer.2 :: noted.published,
      points⟩
  | .error e host => .error e ⟨host, noted.own, noted.published, points⟩

/-- Give the variable `name` a value, and note that the template has done so. -/
def assignOwn (name : String) (operand : Operand) : Run ε (Noted σ) Unit := do
  Run.assign name operand
  modify fun machine =>
    { machine with host := { machine.host with own := name :: machine.host.own } }

section Rendering

variable (globals : Variables) (call : Host ε σ)

/-- The setting of a rendering with notes, inside of the loops with the variables `frames`. -/
def noting (frames : Frames) : Setting ε (Noted σ) :=
  ⟨globals, call.noted frames⟩

mutual

/-- Render a node, and note what the template binds. -/
def noteNode (frames : Frames) : Node → Run ε (Noted σ) Unit
  | .assign name chain => do
    let operand ← Run.ofExcept (chain.evaluate (← scopeOf (noting globals call frames) frames))
    assignOwn name operand.ordered
  | .capture name body => do
    let text ← Run.textOf (noteNodes frames body)
    assignOwn name (.value (.string text))
  | .branch expected condition body otherwise => do
    let holds ← Run.ofExcept (condition.evaluate (← scopeOf (noting globals call frames) frames))
    if holds == expected then noteNodes frames body else noteNodes frames otherwise
  | .select subject arms otherwise => do
    let operand ← Run.ofExcept (subject.evaluate (← scopeOf (noting globals call frames) frames))
    let found ← noteArms frames operand arms
    if found then pure () else noteNodes frames otherwise
  | .loop head body otherwise => do
    let scope ← scopeOf (noting globals call frames) frames
    let items ← Run.ofExcept (head.evaluate scope)
    if items.isEmpty then noteNodes frames otherwise
    else
      let parent := scope "forloop"
      let size := items.length
      Run.eachItem (fun i v =>
        noteNodes (loopFrame head.name parent i size v ++ frames) body) 0 items
  | .table head body => do
    let scope ← scopeOf (noting globals call frames) frames
    let items ← Run.ofExcept (head.evaluate scope)
    let columns ← Run.ofExcept (parameterOf scope head.columns)
    let size := items.length
    let columns := (columns.map Int.toNat).getD size
    Run.eachCell (fun i v =>
      renderCell (noteNodes (cellFrame head.name i size columns v ++ frames) body)
        i size columns) 0 items
  | .whenChanged body => do
    let text ← Run.textOf (noteNodes frames body)
    if (← get).shown == some text then pure ()
    else
      modify fun machine => { machine with shown := some text }
      Run.emit text
  -- All other nodes have no parts and bind no variables.
  | node => renderNode (noting globals call frames) frames node

/-- Render nodes one after another, and note what the template binds. -/
def noteNodes (frames : Frames) : List Node → Run ε (Noted σ) Unit
  | [] => pure ()
  | node :: rest => do
    noteNode frames node
    if (← get).interrupt.isSome then pure () else noteNodes frames rest

/-- Render the first arm with a value that equals the subject, and note what the template binds. -/
def noteArms (frames : Frames) (subject : Operand) :
    List (List Expression × List Node) → Run ε (Noted σ) Bool
  | [] => pure false
  | (values, body) :: rest => do
    let found ← Run.ofExcept
      (anyEqual (← scopeOf (noting globals call frames) frames) subject values)
    if found then
      noteNodes frames body
      return true
    else noteArms frames subject rest

end

end Rendering

/-- Notes say which variables have been `assigned`: those in `own`, to which the template has given
values, and those in `published`. -/
structure Accounts (assigned : Fields Operand) (own : List String) (published : List Variables) :
    Prop where
  /-- What the host has published last has been assigned, unless its name is in `own`. -/
  latest : ∀ vs ∈ published.head?, ∀ name v, name ∉ own → vs.value? name = some v →
    assigned.value? name = some (.value v)
  /-- A name that is not in `own` and that the host has never published has not been assigned. -/
  unbound : ∀ name, name ∉ own → (∀ vs ∈ published, vs.value? name = none) →
    assigned.value? name = none

namespace Accounts

variable {assigned : Fields Operand} {own : List String} {published : List Variables}

/-- At the start nothing has been bound. -/
theorem start : Accounts [] [] [] :=
  ⟨nofun, fun _ _ _ => rfl⟩

/-- The `name` to which the template gives a value is one of its own. -/
theorem assign (h : Accounts assigned own published) (name : String) (operand : Operand) :
    Accounts (assigned.put name operand) (name :: own) published := by
  have hother : ∀ other, other ∉ name :: own →
      (assigned.put name operand).value? other = assigned.value? other ∧ other ∉ own := by
    intro other hown
    obtain ⟨hne, hown⟩ := not_or.1 (mt List.mem_cons.2 hown)
    rw [Fields.value?_put, if_neg (Ne.symm hne)]
    exact ⟨rfl, hown⟩
  constructor
  case latest =>
    intro vs hvs other v hown hv
    rw [(hother other hown).1]
    exact h.latest vs hvs other v (hother other hown).2 hv
  case unbound =>
    intro other hown hnone
    rw [(hother other hown).1]
    exact h.unbound other (hother other hown).2 hnone

/-- The names of what the host publishes as `vs` are no longer the template's own. -/
theorem publish (h : Accounts assigned own published) {vs : Variables} (hvs : vs.Sorted) :
    Accounts (assigned.overlay (operands vs)) (own.filter fun name => !vs.has name)
      (vs :: published) := by
  constructor
  case latest =>
    intro _ hhead name v _ hv
    cases hhead
    rw [value?_overlay_operands _ hvs, hv]
    rfl
  case unbound =>
    intro name hown hnone
    obtain ⟨hlast, hearlier⟩ := List.forall_mem_cons.1 hnone
    have hfree : name ∉ own := by
      intro hmem
      refine hown (List.mem_filter.2 ⟨hmem, ?_⟩)
      rw [Fields.has, hlast]
      rfl
    rw [value?_overlay_operands _ hvs, hlast, Option.map_none, Option.none_or]
    exact h.unbound name hfree hearlier

end Accounts

/-- At `point` the notes say which variables have been assigned, and the state of the host agrees
with what it has published. -/
def Point.Accounted (globals : Variables) (agrees : σ → List Variables → Prop) (point : Point σ) :
    Prop :=
  ∃ machine : Machine σ, point.scope = valueAt (lookup globals point.frames machine) ∧
    Accounts machine.assigned point.own point.published ∧ agrees point.host point.published

/-- The notes `noted` on a rendering with these `assigned` variables are right here and were right
at all points. What it means that a state of the host agrees with what it has published is said by
`agrees`. -/
structure Noted.Sound (globals : Variables) (agrees : σ → List Variables → Prop)
    (assigned : Fields Operand) (noted : Noted σ) : Prop where
  /-- The notes say which variables have been assigned. -/
  accounts : Accounts assigned noted.own noted.published
  /-- The state of the host agrees with what it has published. -/
  host : agrees noted.host noted.published
  /-- The same was so at all points. -/
  points : ∀ point ∈ noted.points, point.Accounted globals agrees

/-- A call of the host leads from a state that agrees with what has been published to such a state,
and what it publishes is in order. -/
def Host.Keeps (call : Host ε σ) (agrees : σ → List Variables → Prop) : Prop :=
  ∀ id scope before published answer after, agrees before published →
    (call id scope).run before = .ok answer after →
      agrees after (answer.2 :: published) ∧ answer.2.Sorted

/-- The notes `noted` without anything but the questions. -/
def Noted.watched (noted : Noted σ) : σ × List (Question σ) :=
  (noted.host, noted.points.map Point.toQuestion)

/-- The state `machine` of a rendering with nothing noted but the questions. -/
def Machine.watched (machine : Machine (Noted σ)) : Machine (σ × List (Question σ)) :=
  machine.withHost machine.host.watched

/-- From the state `machine` on, `part` of a rendering does the same as `noted`, which makes notes,
and the notes are right again after it. -/
def Mirrors (globals : Variables) (agrees : σ → List Variables → Prop) (machine : Machine (Noted σ))
    (part : Run ε (σ × List (Question σ)) α) (noted : Run ε (Noted σ) α) : Prop :=
  match noted.run machine with
  | .ok a after =>
    part.run machine.watched = .ok a after.watched ∧ after.host.Sound globals agrees after.assigned
  | .error stop after =>
    part.run machine.watched = .error stop after.watched ∧
      ∀ point ∈ after.host.points, point.Accounted globals agrees

section Parts

variable {globals : Variables} {agrees : σ → List Variables → Prop} {machine : Machine (Noted σ)}
  {part : Run ε (σ × List (Question σ)) α} {noted : Run ε (Noted σ) α}

theorem mirrors_of_ok {a : α} {after : Machine (Noted σ)} (hnoted : noted.run machine = .ok a after)
    (hpart : part.run machine.watched = .ok a after.watched)
    (h : after.host.Sound globals agrees after.assigned) :
    Mirrors globals agrees machine part noted := by
  rw [Mirrors, hnoted]
  exact ⟨hpart, h⟩

theorem mirrors_of_error {stop : Stop ε} {after : Machine (Noted σ)}
    (hnoted : noted.run machine = .error stop after)
    (hpart : part.run machine.watched = .error stop after.watched)
    (h : ∀ point ∈ after.host.points, point.Accounted globals agrees) :
    Mirrors globals agrees machine part noted := by
  rw [Mirrors, hnoted]
  exact ⟨hpart, h⟩

/-- Two mirrored parts in a row are mirrored. -/
theorem Mirrors.bind {rest : α → Run ε (σ × List (Question σ)) β} {noted' : α → Run ε (Noted σ) β}
    (h : Mirrors globals agrees machine part noted)
    (hrest : ∀ a (after : Machine (Noted σ)), after.host.Sound globals agrees after.assigned →
      Mirrors globals agrees after (rest a) (noted' a)) :
    Mirrors globals agrees machine (part >>= rest) (noted >>= noted') := by
  unfold Mirrors at h
  -- The second part starts where the first one has come to, or is not come to at all.
  cases hrun : noted.run machine with
  | ok a after =>
    rw [hrun] at h
    have hafter := hrest a after h.2
    unfold Mirrors at hafter ⊢
    rw [EStateM.run_bind, EStateM.run_bind, hrun, h.1]
    exact hafter
  | error stop after =>
    rw [hrun] at h
    have hnoted : (noted >>= noted').run machine = .error stop after := by
      rw [EStateM.run_bind, hrun]
    have hpart : (part >>= rest).run machine.watched = .error stop after.watched := by
      rw [EStateM.run_bind, h.1]
    exact mirrors_of_error hnoted hpart h.2

/-- A part is mirrored if it does from this state on what the mirrored part `other` does. -/
theorem Mirrors.of_run_eq {other : Run ε (σ × List (Question σ)) α} {noted' : Run ε (Noted σ) α}
    (h : Mirrors globals agrees machine other noted')
    (hpart : part.run machine.watched = other.run machine.watched)
    (hnoted : noted.run machine = noted'.run machine) :
    Mirrors globals agrees machine part noted := by
  unfold Mirrors at h ⊢
  rw [hnoted, hpart]
  exact h

section Silent

variable (h : machine.host.Sound globals agrees machine.assigned)

include h

/-- Doing nothing is mirrored. -/
theorem mirrors_pure (a : α) : Mirrors globals agrees machine (pure a : Run ε _ α) (pure a) :=
  mirrors_of_ok rfl rfl h

/-- A computation `x` without effects is mirrored. -/
theorem mirrors_ofExcept (x : Except Fault α) :
    Mirrors globals agrees machine (Run.ofExcept x : Run ε _ α) (Run.ofExcept x) := by
  cases x with
  | ok a => exact mirrors_of_ok rfl rfl h
  | error f => exact mirrors_of_error rfl rfl h.points

/-- So is a function `f` of the result of such a computation. -/
theorem mirrors_map (f : α → β) (x : Except Fault α) :
    Mirrors globals agrees machine (f <$> Run.ofExcept x : Run ε _ β) (f <$> Run.ofExcept x) := by
  cases x with
  | ok a => exact mirrors_of_ok rfl rfl h
  | error fault => exact mirrors_of_error rfl rfl h.points

/-- A fault `f` of the template is mirrored. -/
theorem mirrors_fault (f : Fault) :
    Mirrors globals agrees machine (throw (.fault f) : Run ε _ α) (throw (.fault f)) :=
  mirrors_of_error rfl rfl h.points

/-- Appending `s` to the text is mirrored. -/
theorem mirrors_emit (s : String) :
    Mirrors globals agrees machine (Run.emit s : Run ε _ Unit) (Run.emit s) :=
  mirrors_of_ok rfl rfl h

/-- Setting the pending interrupt to `i` is mirrored. -/
theorem mirrors_interrupt (i : Option Interrupt) :
    Mirrors globals agrees machine (Run.interrupt i : Run ε _ Unit) (Run.interrupt i) :=
  mirrors_of_ok rfl rfl h

/-- Showing the counter `name` and counting is mirrored. -/
theorem mirrors_renderCounter (name : String) (before after : Int) :
    Mirrors globals agrees machine (renderCounter name before after : Run ε _ Unit)
      (renderCounter name before after) :=
  mirrors_of_ok rfl rfl h

/-- Showing the next value of the cycle `key` is mirrored. -/
theorem mirrors_renderCycle (scope : Scope) (key : String) (values : List Expression) :
    Mirrors globals agrees machine (renderCycle scope key values : Run ε _ Unit)
      (renderCycle scope key values) := by
  let i := (machine.cycles.value? key).getD 0
  let counted := { machine with cycles := machine.cycles.put key ((i + 1) % values.length) }
  have hcounted : counted.host.Sound globals agrees counted.assigned := h
  have hshow : Mirrors globals agrees counted (emitCycled scope values[i]? : Run ε _ Unit)
      (emitCycled scope values[i]?) := by
    cases values[i]? with
    | none => exact mirrors_fault hcounted _
    | some e => exact (mirrors_ofExcept hcounted _).bind fun _ _ h' => mirrors_emit h' _
  unfold Mirrors at hshow ⊢
  unfold emitCycled at hshow
  exact hshow

/-- Showing the text `s` unless it has been shown last is mirrored. -/
theorem mirrors_emitUnless (c : Bool) (s : String) :
    Mirrors globals agrees machine
      (if c then pure ()
        else modify (fun m => { m with shown := some s }) >>= fun _ => Run.emit s : Run ε _ Unit)
      (if c then pure ()
        else modify (fun m => { m with shown := some s }) >>= fun _ => Run.emit s) := by
  cases c with
  | true => exact mirrors_pure h ()
  | false => exact mirrors_of_ok rfl rfl h

/-- Giving the variable `name` a value is mirrored. -/
theorem mirrors_assignOwn (name : String) (operand : Operand) :
    Mirrors globals agrees machine (Run.assign name operand : Run ε _ Unit)
      (assignOwn name operand) :=
  mirrors_of_ok rfl rfl ⟨h.accounts.assign name operand, h.host, h.points⟩

/-- A part whose text is taken away from the text of the whole is mirrored if the part is. -/
theorem mirrors_textOf {part : Run ε (σ × List (Question σ)) Unit} {noted : Run ε (Noted σ) Unit}
    (hpart : ∀ start : Machine (Noted σ), start.host.Sound globals agrees start.assigned →
      Mirrors globals agrees start part noted) :
    Mirrors globals agrees machine (Run.textOf part) (Run.textOf noted) := by
  have hempty : Mirrors globals agrees machine
      (modify fun m => { m with out := "" } : Run ε _ Unit)
      (modify fun m => { m with out := "" }) :=
    mirrors_of_ok rfl rfl h
  have hrestore : ∀ after : Machine (Noted σ), after.host.Sound globals agrees after.assigned →
      Mirrors globals agrees after
        (do let text := (← get).out
            modify fun m => { m with out := machine.out }
            return text : Run ε _ String)
        (do let text := (← get).out
            modify fun m => { m with out := machine.out }
            return text) :=
    fun _ h' => mirrors_of_ok rfl rfl h'
  have hall := hempty.bind fun _ start h' => (hpart start h').bind fun _ after h'' =>
    hrestore after h''
  exact hall.of_run_eq rfl rfl

end Silent

section Composed

variable {step : Nat → Value → Run ε (σ × List (Question σ)) Unit}
  {step' : Nat → Value → Run ε (Noted σ) Unit}

/-- The rounds of a loop over `items` are mirrored if each of them is. -/
theorem mirrors_eachItem
    (hstep : ∀ i v (start : Machine (Noted σ)), start.host.Sound globals agrees start.assigned →
      Mirrors globals agrees start (step i v) (step' i v))
    (h : machine.host.Sound globals agrees machine.assigned) (i : Nat) (items : List Value) :
    Mirrors globals agrees machine (Run.eachItem step i items) (Run.eachItem step' i items) := by
  induction items generalizing i machine with
  | nil => exact mirrors_pure h ()
  | cons v rest ih =>
    refine (hstep i v machine h).bind fun _ after hafter => ?_
    -- Whether the loop is left is known from the machine, before the interrupt is taken back.
    have hgo : Mirrors globals agrees after
        (Run.interrupt none >>= fun _ =>
          if after.interrupt == some .leave then pure () else Run.eachItem step (i + 1) rest)
        (Run.interrupt none >>= fun _ =>
          if after.interrupt == some .leave then pure () else Run.eachItem step' (i + 1) rest) := by
      refine (mirrors_interrupt hafter none).bind fun _ next hnext => ?_
      split
      · exact mirrors_pure hnext ()
      · exact ih hnext (i + 1)
    exact hgo.of_run_eq rfl rfl

/-- The cells of a table of `items` are mirrored if each of them is. -/
theorem mirrors_eachCell
    (hstep : ∀ i v (start : Machine (Noted σ)), start.host.Sound globals agrees start.assigned →
      Mirrors globals agrees start (step i v) (step' i v))
    (h : machine.host.Sound globals agrees machine.assigned) (i : Nat) (items : List Value) :
    Mirrors globals agrees machine (Run.eachCell step i items) (Run.eachCell step' i items) := by
  induction items generalizing i machine with
  | nil => exact mirrors_pure h ()
  | cons v rest ih => exact (hstep i v machine h).bind fun _ _ hafter => ih hafter (i + 1)

/-- Showing the text `s` under the condition `c` is mirrored. -/
theorem mirrors_emitIf (h : machine.host.Sound globals agrees machine.assigned) (c : Bool)
    (s : String) :
    Mirrors globals agrees machine (if c then Run.emit s else pure () : Run ε _ Unit)
      (if c then Run.emit s else pure ()) := by
  cases c with
  | true => exact mirrors_emit h s
  | false => exact mirrors_pure h ()

/-- A cell of a table is mirrored if its part is. -/
theorem mirrors_renderCell {part : Run ε (σ × List (Question σ)) Unit}
    {noted : Run ε (Noted σ) Unit}
    (hpart : ∀ start : Machine (Noted σ), start.host.Sound globals agrees start.assigned →
      Mirrors globals agrees start part noted)
    (h : machine.host.Sound globals agrees machine.assigned) (i size columns : Nat) :
    Mirrors globals agrees machine (renderCell part i size columns)
      (renderCell noted i size columns) := by
  have hcell := (mirrors_emitIf h (i % columns == 0)
      ("<tr class=\"row" ++ toString (i / columns + 1) ++ "\">")).bind fun _ _ h₁ =>
    (mirrors_emit h₁ ("<td class=\"col" ++ toString (i % columns + 1) ++ "\">")).bind fun _ _ h₂ =>
    (hpart _ h₂).bind fun _ _ h₃ => (mirrors_emit h₃ "</td>").bind fun _ _ h₄ =>
      mirrors_emitIf h₄ (i % columns + 1 == columns || i + 1 == size) "</tr>"
  refine hcell.of_run_eq ?_ ?_
  -- Where a row begins and ends is known from the numbers alone.
  all_goals
    unfold renderCell
    cases i % columns == 0 <;> cases i % columns + 1 == columns || i + 1 == size <;> rfl

end Composed

end Parts

/-- Publishing lays the variables `published` over those that have been assigned, up to the first
one with a number that is too large. -/
theorem run_publish (published : Variables) (machine : Machine σ) :
    (Run.publish published : Run ε σ Unit).run machine =
      if published.all fun entry => fits entry.2 then
        .ok () { machine with assigned := machine.assigned.overlay (operands published) }
      else .error (.fault .numberTooLarge) { machine with
        assigned := machine.assigned.overlay
          (operands (published.takeWhile fun entry => fits entry.2)) } := by
  -- Variable by variable, from a machine in which the ones before are assigned.
  induction published generalizing machine with
  | nil => rfl
  | cons entry rest ih =>
    obtain ⟨name, v⟩ := entry
    unfold Run.publish
    cases hfits : fits v with
    | true =>
      simp only [List.all_cons, List.takeWhile_cons, hfits, Bool.true_and, if_true]
      exact ih { machine with assigned := machine.assigned.put name (.value v) }
    | false =>
      simp only [List.all_cons, List.takeWhile_cons, hfits, Bool.false_and, Bool.false_eq_true,
        if_false]
      rfl

section Nodes

variable {globals : Variables} {agrees : σ → List Variables → Prop} {call : Host ε σ}

/-- With notes, the host answers the call `id` as before, and the call is noted as a point. -/
theorem run_noted (call : Host ε σ) (frames : Frames) (id : Nat) (scope : Path → Option Value)
    (noted : Noted σ) :
    (call.noted frames id scope).run noted =
      let points := noted.points ++ [⟨⟨id, scope, noted.host⟩, frames, noted.own, noted.published⟩]
      match (call id scope).run noted.host with
      | .ok answer host =>
        .ok answer ⟨host, noted.own.filter fun name => !answer.2.has name,
          answer.2 :: noted.published, points⟩
      | .error e host => .error e ⟨host, noted.own, noted.published, points⟩ := rfl

/-- A call of the host is mirrored. -/
theorem mirrors_call (hcall : call.Keeps agrees) {machine : Machine (Noted σ)}
    (h : machine.host.Sound globals agrees machine.assigned) (frames : Frames) (id : Nat) :
    Mirrors globals agrees machine (Run.call ⟨globals, call.watched⟩ frames id)
      (Run.call (noting globals call frames) frames id) := by
  let scope := valueAt (lookup globals frames machine)
  let question : Question σ := ⟨id, scope, machine.host.host⟩
  let point : Point σ := ⟨question, frames, machine.host.own, machine.host.published⟩
  have hpoint : point.Accounted globals agrees :=
    ⟨machine.withHost machine.host.host, rfl, h.accounts, h.host⟩
  have hpoints : ∀ p ∈ machine.host.points ++ [point], p.Accounted globals agrees :=
    List.forall_mem_append.2 ⟨h.points, List.forall_mem_singleton.2 hpoint⟩
  have hquestions : machine.host.points.map Point.toQuestion ++ [question] =
      (machine.host.points ++ [point]).map Point.toQuestion := by
    rw [List.map_append, List.map_singleton]
  have hwatched := run_watched call id scope machine.host.host
    (machine.host.points.map Point.toQuestion)
  have hnoted := run_noted call frames id scope machine.host
  rw [hquestions] at hwatched
  cases hanswer : (call id scope).run machine.host.host with
  | error e host =>
    rw [hanswer] at hwatched hnoted
    exact mirrors_of_error (run_call_of_error (noting globals call frames) hnoted)
      (run_call_of_error ⟨globals, call.watched⟩ hwatched) hpoints
  | ok answer host =>
    rw [hanswer] at hwatched hnoted
    obtain ⟨hagrees, hsorted⟩ := hcall _ _ _ _ _ _ h.host hanswer
    have hplain : (Run.call ⟨globals, call.watched⟩ frames id).run machine.watched = _ :=
      run_call_of_ok ⟨globals, call.watched⟩ hwatched
    have hghost := run_call_of_ok (noting globals call frames) hnoted
    rw [EStateM.run_bind, run_publish] at hplain hghost
    cases hfits : answer.2.all fun entry => fits entry.2 with
    | false =>
      -- A number that is too large ends the rendering, when the call is already among the points.
      rw [hfits] at hplain hghost
      exact mirrors_of_error hghost hplain hpoints
    | true =>
      rw [hfits] at hplain hghost
      exact mirrors_of_ok hghost hplain ⟨h.accounts.publish hsorted, hagrees, hpoints⟩

/-- What a rendering looks up does not depend on notes, so a part that needs the scope is mirrored
if it is with the scope given. -/
theorem mirrors_scopeOf {machine : Machine (Noted σ)} {frames : Frames}
    {rest : Scope → Run ε (σ × List (Question σ)) α} {noted : Scope → Run ε (Noted σ) α}
    (h : Mirrors globals agrees machine (rest (lookup globals frames machine))
      (noted (lookup globals frames machine))) :
    Mirrors globals agrees machine (scopeOf ⟨globals, call.watched⟩ frames >>= rest)
      (scopeOf (noting globals call frames) frames >>= noted) :=
  h.of_run_eq rfl rfl

mutual

/-- Rendering a `node` with notes does the same as without. -/
theorem mirrors_noteNode (hcall : call.Keeps agrees) (node : Node) (frames : Frames)
    {machine : Machine (Noted σ)} (h : machine.host.Sound globals agrees machine.assigned) :
    Mirrors globals agrees machine (renderNode ⟨globals, call.watched⟩ frames node)
      (noteNode globals call frames node) := by
  match node with
  | .text s => exact mirrors_emit h s
  -- A tag looks variables up before it does anything else, and the state is still the same then.
  | .output chain =>
    exact mirrors_scopeOf ((mirrors_ofExcept h _).bind fun operand _ h' =>
      mirrors_emit h' operand.text)
  | .call id => exact mirrors_call hcall h frames id
  | .assign name chain =>
    exact mirrors_scopeOf ((mirrors_ofExcept h _).bind fun operand _ h' =>
      mirrors_assignOwn h' name operand.ordered)
  | .capture name body =>
    simp only [renderNode, noteNode]
    exact (mirrors_textOf h fun _ h' => mirrors_noteNodes hcall body frames h').bind
      fun text _ h' => mirrors_assignOwn h' name (.value (.string text))
  | .increment name => exact mirrors_renderCounter h name 0 1
  | .decrement name => exact mirrors_renderCounter h name (-1) (-1)
  | .cycle key values => exact mirrors_scopeOf (mirrors_renderCycle h _ key values)
  | .branch expected condition body otherwise =>
    simp only [renderNode, noteNode]
    refine mirrors_scopeOf ((mirrors_ofExcept h _).bind fun holds _ h' => ?_)
    split
    · exact mirrors_noteNodes hcall body frames h'
    · exact mirrors_noteNodes hcall otherwise frames h'
  | .select subject arms otherwise =>
    simp only [renderNode, noteNode]
    refine mirrors_scopeOf ((mirrors_ofExcept h _).bind fun operand _ h' => ?_)
    refine (mirrors_noteArms hcall arms frames operand h').bind fun found _ h'' => ?_
    split
    · exact mirrors_pure h'' ()
    · exact mirrors_noteNodes hcall otherwise frames h''
  | .loop head body otherwise =>
    simp only [renderNode, noteNode]
    refine mirrors_scopeOf ((mirrors_ofExcept h _).bind fun items _ h' => ?_)
    split
    · exact mirrors_noteNodes hcall otherwise frames h'
    · refine mirrors_eachItem (fun i v _ h'' => ?_) h' 0 items
      exact mirrors_noteNodes hcall body (loopFrame head.name _ i items.length v ++ frames) h''
  | .table head body =>
    simp only [renderNode, noteNode]
    refine mirrors_scopeOf ((mirrors_ofExcept h _).bind fun items _ h' => ?_)
    refine (mirrors_ofExcept h' _).bind fun columns _ h'' => ?_
    refine mirrors_eachCell (fun i v _ hcell => ?_) h'' 0 items
    exact mirrors_renderCell (fun _ hbody =>
      mirrors_noteNodes hcall body (cellFrame head.name i items.length _ v ++ frames) hbody)
        hcell i items.length _
  | .whenChanged body =>
    simp only [renderNode, noteNode]
    refine (mirrors_textOf h fun _ h' => mirrors_noteNodes hcall body frames h').bind
      fun text after h' => ?_
    exact (mirrors_emitUnless h' (after.shown == some text) text).of_run_eq rfl rfl
  | .leave => exact mirrors_interrupt h (some .leave)
  | .skip => exact mirrors_interrupt h (some .skip)
  | .partialTemplate e repeated =>
    simp only [noteNode, renderNode]
    refine mirrors_scopeOf ((mirrors_ofExcept h _).bind fun operand after h' => ?_)
    cases repeated with
    | none => exact mirrors_fault h' _
    | some source =>
      refine (mirrors_map h' List.isEmpty _).bind fun unused _ h'' => ?_
      cases unused with
      | true => exact mirrors_pure h'' ()
      | false => exact mirrors_fault h'' _
  | .nothing => exact mirrors_pure h ()

/-- Rendering `nodes` one after another with notes does the same as without. -/
theorem mirrors_noteNodes (hcall : call.Keeps agrees) (nodes : List Node) (frames : Frames)
    {machine : Machine (Noted σ)} (h : machine.host.Sound globals agrees machine.assigned) :
    Mirrors globals agrees machine (renderNodes ⟨globals, call.watched⟩ frames nodes)
      (noteNodes globals call frames nodes) := by
  match nodes with
  | [] => exact mirrors_pure h ()
  | node :: rest =>
    simp only [renderNodes, noteNodes]
    refine (mirrors_noteNode hcall node frames h).bind fun _ after h' => ?_
    have hrest : Mirrors globals agrees after
        (if after.interrupt.isSome then pure ()
          else renderNodes ⟨globals, call.watched⟩ frames rest)
        (if after.interrupt.isSome then pure () else noteNodes globals call frames rest) := by
      split
      · exact mirrors_pure h' ()
      · exact mirrors_noteNodes hcall rest frames h'
    exact hrest.of_run_eq rfl rfl

/-- Rendering the `arms` of a selection with notes does the same as without. -/
theorem mirrors_noteArms (hcall : call.Keeps agrees) (arms : List (List Expression × List Node))
    (frames : Frames) (subject : Operand) {machine : Machine (Noted σ)}
    (h : machine.host.Sound globals agrees machine.assigned) :
    Mirrors globals agrees machine (renderArms ⟨globals, call.watched⟩ frames subject arms)
      (noteArms globals call frames subject arms) := by
  match arms with
  | [] => exact mirrors_pure h false
  | (values, body) :: rest =>
    simp only [renderArms, noteArms]
    refine mirrors_scopeOf ((mirrors_ofExcept h _).bind fun found _ h' => ?_)
    split
    · exact (mirrors_noteNodes hcall body frames h').bind fun _ _ h'' => mirrors_pure h'' true
    · exact mirrors_noteArms hcall rest frames subject h'

end

end Nodes

section Points

variable (globals : Variables) (call : Host ε σ) (nodes : List Node) (host : σ)

/-- The calls that are made to `host` while `nodes` are rendered, each with the variables that the
template has bound there. -/
def points : List (Point σ) :=
  match (noteNodes globals call [] nodes).run (.start ⟨host, [], [], []⟩) with
  | .ok _ machine => machine.host.points
  | .error _ machine => machine.host.points

variable {globals call nodes host} {agrees : σ → List Variables → Prop}

/-- The points of a rendering are its questions, and at all of them the notes are right. -/
theorem points_spec (hcall : call.Keeps agrees) (hhost : agrees host []) :
    (points globals call nodes host).map Point.toQuestion = questions globals call nodes host ∧
      ∀ point ∈ points globals call nodes host, point.Accounted globals agrees := by
  have hstart : (⟨host, [], [], []⟩ : Noted σ).Sound globals agrees [] :=
    ⟨.start, hhost, nofun⟩
  have hmirrors : Mirrors globals agrees (.start ⟨host, [], [], []⟩) _ _ :=
    mirrors_noteNodes hcall nodes [] hstart
  have hwatched : Machine.watched (.start ⟨host, [], [], []⟩) = .start (host, []) := rfl
  unfold Mirrors at hmirrors
  unfold points questions
  rw [hwatched] at hmirrors
  split at hmirrors
  · next hrun =>
    rw [hrun, hmirrors.1]
    exact ⟨rfl, hmirrors.2.points⟩
  · next stop after hrun =>
    rw [hrun, hmirrors.1]
    cases stop <;> exact ⟨rfl, hmirrors.2⟩

end Points

end Promptbook.Template
