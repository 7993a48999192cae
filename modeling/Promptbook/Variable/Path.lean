import Promptbook.Data.Value

/-!
# Variable Paths

A path names a variable and leads on to a part of its value, such as `user.tags[0]`.
-/

namespace Promptbook

/-- One step of a path. -/
inductive PathStep where
  /-- The member of an object. -/
  | key (name : String)
  /-- The item of an array, counted from zero, or the member of an object with this number as its
  name. -/
  | index (n : Nat)
  deriving DecidableEq, Inhabited

/-- The part of a value that one step leads to. -/
def PathStep.enter? : PathStep → Value → Option Value
  | .key name, .object fields => Fields.value? fields name
  | .index n, .array items => items[n]?
  | .index n, .object fields => Fields.value? fields (toString n)
  | _, _ => none

/-- The text of a step. -/
def PathStep.display : PathStep → String
  | .key name => "." ++ name
  | .index n => "[" ++ toString n ++ "]"

/-- A path: a variable and the steps into its value. -/
structure Path where
  /-- The name of the variable. -/
  root : String
  /-- The steps into its value. -/
  steps : List PathStep
  deriving DecidableEq, Inhabited

namespace Path

/-- The part of `value` that the steps of `path` lead to. -/
def walk? (path : Path) (value : Value) : Option Value :=
  path.steps.foldlM (fun v step => step.enter? v) value

/-- The value at `path`, in a `scope` that gives the values of variables. -/
def find? (path : Path) (scope : String → Option Value) : Option Value :=
  (scope path.root).bind path.walk?

/-- The text of `path`. -/
def display (path : Path) : String :=
  path.root ++ String.join (path.steps.map PathStep.display)

end Path

/-- The scope of two layers of variables: `name` has its value in `upper`, and only if it has none
there that in `lower`. -/
def layered (upper lower : Variables) (name : String) : Option Value :=
  (upper.value? name).or (lower.value? name)

end Promptbook
