import Promptbook.Template.Machine

/-!
# Rendering

Renders nodes one after another. After each node a pending interrupt ends the enclosing body, up to
the innermost loop, which takes the interrupt away.
-/

namespace Promptbook.Template

variable {ε σ : Type}

namespace Run

/-- The result of a computation without effects. -/
def ofExcept {α : Type} : Except Fault α → Run ε σ α
  | .ok a => pure a
  | .error f => throw (.fault f)

/-- Append `s` to the text. -/
def emit (s : String) : Run ε σ Unit :=
  modify fun machine => { machine with out := machine.out ++ s }

/-- Give the variable `name` the value `operand`. -/
def assign (name : String) (operand : Operand) : Run ε σ Unit :=
  modify fun machine => { machine with assigned := machine.assigned.put name operand }

/-- Set or clear the pending interrupt. -/
def interrupt (i : Option Interrupt) : Run ε σ Unit :=
  modify fun machine => { machine with interrupt := i }

/-- The text that `part` appends; it is taken away from the text of the whole. -/
def textOf (part : Run ε σ Unit) : Run ε σ String := do
  let outer := (← get).out
  modify fun machine => { machine with out := "" }
  part
  let text := (← get).out
  modify fun machine => { machine with out := outer }
  return text

/-- Give variables the values that the host publishes. -/
def publish : Variables → Run ε σ Unit
  | [] => pure ()
  | (name, v) :: rest => do
    if fits v then
      assign name (.value v)
      publish rest
    else throw (.fault .numberTooLarge)

/-- Call the host for the directive with the number `id`, show the text that it gives and publish
its variables. -/
def call (setting : Setting ε σ) (frames : Frames) (id : Nat) : Run ε σ Unit := do
  let machine ← get
  match setting.call id (valueAt (lookup setting.globals frames machine)) machine.host with
  | .error e host =>
    set { machine with host := host }
    throw (.host e)
  | .ok (text, published) host =>
    set { machine with host := host }
    publish published
    emit (text.getD "")

/-- Do `step` for every item with its position. A pending interrupt is taken away after each item,
and ends the sequence if it leaves the loop. -/
def eachItem (step : Nat → Value → Run ε σ Unit) : Nat → List Value → Run ε σ Unit
  | _, [] => pure ()
  | i, v :: rest => do
    step i v
    let pending := (← get).interrupt
    interrupt none
    if pending == some .leave then pure () else eachItem step (i + 1) rest

/-- Do `step` for every item with its position. -/
def eachCell (step : Nat → Value → Run ε σ Unit) : Nat → List Value → Run ε σ Unit
  | _, [] => pure ()
  | i, v :: rest => do
    step i v
    eachCell step (i + 1) rest

end Run

/-- The items that a loop through `operand` goes through: those of an array, pairs of names and
values of an object, none for the absent value and the markers. -/
def iterated (operand : Operand) : Except Fault (List Value) :=
  match operand with
  | .value (.array items) => .ok items
  | .value (.object fields) =>
    .ok (fields.map fun entry => .array [.string entry.1, entry.2.ordered])
  | .value .null => .ok []
  | .value _ => .error (.unexpected "array")
  | .empty => .ok []
  | .blank => .ok []

/-- The whole numbers from `first` to `last`, both included. -/
def rangeItems (first last : Int) : List Value :=
  (List.range (last + 1 - first).toNat).map fun (i : Nat) => .int (first + i)

/-- The whole number that `e` denotes. -/
def wholeOf (scope : Scope) (e : Expression) : Except Fault Int := do
  match (← e.evaluate scope).whole? with
  | some n => return n
  | none => throw (.unexpected "whole number")

/-- The items of a loop source. -/
def LoopSource.evaluate (scope : Scope) : LoopSource → Except Fault (List Value)
  | .items e => do iterated (← e.evaluate scope)
  | .range first last => do return rangeItems (← wholeOf scope first) (← wholeOf scope last)

/-- The whole number of a parameter, if it is there. -/
def parameterOf (scope : Scope) : Option Expression → Except Fault (Option Int)
  | none => .ok none
  | some e => (wholeOf scope e).map some

/-- The number `count` of items, which is at most `size`. A negative count is larger than every
number of items. -/
def capped (count : Int) (size : Nat) : Nat :=
  if count < 0 then size else min count.toNat size

/-- The items that remain of `items`. A `limit` that reaches behind the end fills up with absent
values. -/
def restrict (items : List Value) (limit : Option Int) (offset : Int) (reversed : Bool) :
    List Value :=
  let start := capped offset items.length
  let count := match limit with
    | none => items.length - start
    | some n => capped n items.length
  let rest := items.drop start
  let kept := rest.take count ++ List.replicate (count - rest.length) .null
  if reversed then kept.reverse else kept

/-- The items that a loop with `head` goes through. -/
def LoopHead.evaluate (scope : Scope) (head : LoopHead) : Except Fault (List Value) := do
  let items ← head.source.evaluate scope
  let limit ← parameterOf scope head.limit
  let offset ← parameterOf scope head.offset
  return restrict items limit (offset.getD 0) head.reversed

/-- What every loop tells about its round `i` of `size`, apart from the size. -/
def roundInfo (i size : Nat) : List (String × Value) := [
  ("index0", .int i), ("index", .int (i + 1)), ("rindex0", .int (size - i - 1 : Nat)),
  ("rindex", .int (size - i : Nat)), ("first", .bool (i == 0)), ("last", .bool (i + 1 == size))]

/-- The variables of the round `i` of a loop of `size` rounds. -/
def loopFrame (name : String) (parent : Option Operand) (i size : Nat) (v : Value) : Frames :=
  let outer := (parent.map Operand.toValue).getD .null
  [(name, .value v),
    ("forloop", .value (.object
      (("length", .int size) :: ("parentloop", outer) :: roundInfo i size)))]

/-- The variables of the cell `i` of a table. -/
def cellFrame (name : String) (i size columns : Nat) (v : Value) : Frames :=
  let column := i % columns
  let info : List (String × Value) := [
    ("col0", .int column), ("col", .int (column + 1)), ("col_first", .bool (column == 0)),
    ("col_last", .bool (column + 1 == columns || i + 1 == size))]
  [(name, .value v),
    ("tablerow", .value (.object (("length", .int size) :: roundInfo i size ++ info)))]

/-- Render the start, the `content` and the end of a cell of a table. -/
def renderCell (content : Run ε σ Unit) (i size columns : Nat) : Run ε σ Unit := do
  if i % columns == 0 then
    Run.emit ("<tr class=\"row" ++ toString (i / columns + 1) ++ "\">")
  Run.emit ("<td class=\"col" ++ toString (i % columns + 1) ++ "\">")
  content
  Run.emit "</td>"
  if i % columns + 1 == columns || i + 1 == size then Run.emit "</tr>"

/-- The values of variables at this point of a rendering. -/
def scopeOf (setting : Setting ε σ) (frames : Frames) : Run ε σ Scope :=
  return lookup setting.globals frames (← get)

/-- Whether one of the listed expressions equals `subject`. -/
def anyEqual (scope : Scope) (subject : Operand) : List Expression → Except Fault Bool
  | [] => .ok false
  | e :: rest => do
    if (← e.evaluate scope).equal subject then return true else anyEqual scope subject rest

/-- Show the next one of the `values` of a cycle. -/
def renderCycle (scope : Scope) (key : String) (values : List Expression) : Run ε σ Unit := do
  let i := ((← get).cycles.value? key).getD 0
  modify fun machine =>
    { machine with cycles := machine.cycles.put key ((i + 1) % values.length) }
  match values[i]? with
  | none => throw (.fault (.unexpected "value of the cycle"))
  | some e =>
    let operand ← Run.ofExcept (e.evaluate scope)
    Run.emit operand.text

/-- Show the counter `name` and count. -/
def renderCounter (name : String) (before after : Int) : Run ε σ Unit := do
  let n := ((← get).counters.value? name).getD 0
  modify fun machine => { machine with counters := machine.counters.put name (n + after) }
  Run.emit (toString (n + before))

mutual

/-- Render a node. -/
def renderNode (setting : Setting ε σ) (frames : Frames) : Node → Run ε σ Unit
  | .text s => Run.emit s
  | .output chain => do
    let operand ← Run.ofExcept (chain.evaluate (← scopeOf setting frames))
    Run.emit operand.text
  | .call id => Run.call setting frames id
  | .assign name chain => do
    let operand ← Run.ofExcept (chain.evaluate (← scopeOf setting frames))
    Run.assign name operand.ordered
  | .capture name body => do
    let text ← Run.textOf (renderNodes setting frames body)
    Run.assign name (.value (.string text))
  | .increment name => renderCounter name 0 1
  | .decrement name => renderCounter name (-1) (-1)
  | .cycle key values => do
    renderCycle (← scopeOf setting frames) key values
  | .branch expected condition body otherwise => do
    let holds ← Run.ofExcept (condition.evaluate (← scopeOf setting frames))
    if holds == expected then renderNodes setting frames body
    else renderNodes setting frames otherwise
  | .select subject arms otherwise => do
    let operand ← Run.ofExcept (subject.evaluate (← scopeOf setting frames))
    let found ← renderArms setting frames operand arms
    if found then pure () else renderNodes setting frames otherwise
  | .loop head body otherwise => do
    let scope ← scopeOf setting frames
    let items ← Run.ofExcept (head.evaluate scope)
    if items.isEmpty then renderNodes setting frames otherwise
    else
      let parent := scope "forloop"
      let size := items.length
      Run.eachItem (fun i v =>
        renderNodes setting (loopFrame head.name parent i size v ++ frames) body) 0 items
  | .table head body => do
    let scope ← scopeOf setting frames
    let items ← Run.ofExcept (head.evaluate scope)
    let columns ← Run.ofExcept (parameterOf scope head.columns)
    let size := items.length
    -- A negative width is one that no row reaches. Zero columns act the same: `i % 0` is `i`.
    let columns := (columns.map Int.toNat).getD size
    Run.eachCell (fun i v =>
      renderCell (renderNodes setting (cellFrame head.name i size columns v ++ frames) body)
        i size columns) 0 items
  | .whenChanged body => do
    let text ← Run.textOf (renderNodes setting frames body)
    if (← get).shown == some text then pure ()
    else
      modify fun machine => { machine with shown := some text }
      Run.emit text
  | .leave => Run.interrupt (some .leave)
  | .skip => Run.interrupt (some .skip)
  | .partialTemplate e repeated => do
    let scope ← scopeOf setting frames
    let operand ← Run.ofExcept (e.evaluate scope)
    -- A template that is asked for by no item is not missed.
    let unused ← match repeated with
      | none => pure false
      | some source => List.isEmpty <$> Run.ofExcept (source.evaluate scope)
    if unused then pure () else throw (.fault (.unknownTemplate operand.text))
  | .nothing => pure ()

/-- Render nodes one after another, up to a pending interrupt. -/
def renderNodes (setting : Setting ε σ) (frames : Frames) : List Node → Run ε σ Unit
  | [] => pure ()
  | node :: rest => do
    renderNode setting frames node
    if (← get).interrupt.isSome then pure () else renderNodes setting frames rest

/-- Render the first arm with a value that equals `subject`, and say whether there is one. -/
def renderArms (setting : Setting ε σ) (frames : Frames) (subject : Operand) :
    List (List Expression × List Node) → Run ε σ Bool
  | [] => pure false
  | (values, body) :: rest => do
    let found ← Run.ofExcept (anyEqual (← scopeOf setting frames) subject values)
    if found then
      renderNodes setting frames body
      return true
    else renderArms setting frames subject rest

end

end Promptbook.Template
