import Promptbook.Template.Node
import Promptbook.Variable.Path

/-!
# The State of a Rendering

Rendering appends to a text and changes variables, counters and a few memories. The calls of the
host are part of it: the host has a state of its own, sees the variables of the rendering, and
publishes variables in return.
-/

namespace Promptbook.Template

/-- What leaves the innermost loop or its current round. -/
inductive Interrupt where
  /-- Leave the loop. -/
  | leave
  /-- Go on with the next item. -/
  | skip
  deriving DecidableEq

/-- The state of a rendering; `σ` is the state of the host. -/
structure Machine (σ : Type) where
  /-- The variables that have been assigned, captured or published. -/
  assigned : Fields Operand
  /-- The counters. -/
  counters : Fields Int
  /-- The positions of the cycles. -/
  cycles : Fields Nat
  /-- The text of the last block that is shown only when it changes. -/
  shown : Option String
  /-- What is pending for the innermost loop. -/
  interrupt : Option Interrupt
  /-- The text so far. -/
  out : String
  /-- The state of the host. -/
  host : σ

/-- The state at the start of a rendering with `host`. -/
def Machine.start {σ : Type} (host : σ) : Machine σ :=
  ⟨[], [], [], none, none, "", host⟩

/-- Why a rendering stops; `ε` is why a call of the host fails. -/
inductive Stop (ε : Type) where
  /-- The template has the fault `f`. -/
  | fault (f : Fault)
  /-- A call of the host failed with `e`. -/
  | host (e : ε)

/-- A part of a rendering. -/
abbrev Run (ε σ α : Type) := EStateM (Stop ε) (Machine σ) α

/-- The variables of loops, the innermost first. -/
abbrev Frames := List (String × Operand)

/-- What stays the same during a rendering. -/
structure Setting (ε σ : Type) where
  /-- The variables that are there from the start. -/
  globals : Variables
  /-- Call the host: the directive with a number, which can look up the values at paths. It may
  give a text, and publishes variables. -/
  call : Nat → (Path → Option Value) → EStateM ε σ (Option String × Variables)

/-- The values of variables: those in `frames`, else those that have been assigned, else those in
`globals`, else the counters. -/
def lookup {σ : Type} (globals : Variables) (frames : Frames) (machine : Machine σ) : Scope :=
  fun name =>
    match frames.lookup name with
    | some operand => some operand
    | none => match machine.assigned.value? name with
      | some operand => some operand
      | none => match globals.value? name with
        | some v => some (.value v)
        | none => (machine.counters.value? name).map fun n => .value (.int n)

/-- The scalar that a step of a path indexes with, unless its number is too large. -/
def stepIndex? : PathStep → Option Value
  | .key name => some (.string name)
  | .index n => if Whole.fits n then some (.int n) else none

/-- The value at `path`. Outside of templates numbers are finite and members are in order. -/
def valueAt (scope : Scope) (path : Path) : Option Value :=
  (path.steps.mapM stepIndex?).bind fun indexes =>
    (scope path.root).bind fun operand =>
      (operand.walk? indexes).map fun part => part.toValue.finite.ordered

end Promptbook.Template
