import Promptbook.Template.Filter.Basic

/-!
# Expressions

Literals, variables with indexes, and chains of filters, with their evaluation in a scope.
-/

namespace Promptbook.Template

/-- An expression. -/
inductive Expression where
  /-- An operand that is written out. -/
  | literal (operand : Operand)
  /-- A variable and the indexes of a part of its value. -/
  | variable (root : String) (indexes : List Expression)
  deriving Inhabited

/-- A filter with the expressions of its arguments. -/
structure FilterUse where
  /-- The filter. -/
  filter : Filter
  /-- The arguments. -/
  arguments : List Expression

/-- An expression and the filters that it goes through, from left to right. -/
structure Chain where
  /-- The expression. -/
  entry : Expression
  /-- The filters. -/
  uses : List FilterUse

/-- The values of variables, as far as they have one. -/
abbrev Scope := String → Option Operand

mutual

/-- The operand that an expression denotes in `scope`. -/
def Expression.evaluate (scope : Scope) : Expression → Except Fault Operand
  | .literal operand => .ok operand
  | .variable root indexes =>
    match evaluateIndexes scope indexes with
    | .error fault => .error fault
    | .ok path => match scope root with
      | none => .error (.unknownVariable root)
      | some operand => match operand.walk? path with
        | none => .error (.unknownIndex root)
        | some part => .ok part

/-- The scalars that index expressions denote in `scope`. -/
def evaluateIndexes (scope : Scope) : List Expression → Except Fault (List Value)
  | [] => .ok []
  | e :: rest =>
    match e.evaluate scope with
    | .error fault => .error fault
    | .ok operand => match operand.scalar? with
      | none => .error .invalidIndex
      | some v => match evaluateIndexes scope rest with
        | .error fault => .error fault
        | .ok path => .ok (v :: path)

end

/-- The operands that expressions denote in `scope`. -/
def evaluateAll (scope : Scope) : List Expression → Except Fault (List Operand)
  | [] => .ok []
  | e :: rest => do
    let operand ← e.evaluate scope
    let others ← evaluateAll scope rest
    return operand :: others

/-- What a sequence of filters makes of an operand. Every filter gives the members of objects in
order. -/
def applyFilters (scope : Scope) : Operand → List FilterUse → Except Fault Operand
  | operand, [] => .ok operand
  | operand, use :: rest => do
    let arguments ← evaluateAll scope use.arguments
    let next ← use.filter.apply operand arguments
    applyFilters scope next.ordered rest

/-- The operand that `chain` denotes in `scope`. -/
def Chain.evaluate (scope : Scope) (chain : Chain) : Except Fault Operand := do
  applyFilters scope (← chain.entry.evaluate scope) chain.uses

mutual

/-- The text that tells expressions apart. -/
def Expression.display : Expression → String
  | .literal (.value (.string s)) => "\"" ++ s ++ "\""
  | .literal (.value v) => if v.isNull then "nil" else valueText v
  | .literal .empty => "empty"
  | .literal .blank => "blank"
  | .variable root indexes => root ++ displayIndexes indexes

/-- The text of indexes. -/
def displayIndexes : List Expression → String
  | [] => ""
  | e :: rest => "[" ++ e.display ++ "]" ++ displayIndexes rest

end

/-- A comparison of two operands. -/
inductive Comparison where
  /-- `==` -/
  | equal
  /-- `!=` -/
  | notEqual
  /-- `<` -/
  | less
  /-- `>` -/
  | greater
  /-- `<=` -/
  | atMost
  /-- `>=` -/
  | atLeast
  /-- Whether the first operand contains the second one. -/
  | contains
  deriving DecidableEq, Inhabited

namespace Comparison

/-- Whether `left` contains `right`: a text a text, an object a name, an array an item. -/
def containment (left right : Operand) : Except Fault Bool :=
  match left with
  | .value (.array items) => .ok (items.any fun v => (Operand.value v).equal right)
  | .value (.object fields) =>
    .ok (match right.scalar? with
      | some v => Fields.has fields (valueText v)
      | none => false)
  | .value .null => .error (.unexpected "text, array or object")
  | .value v => .ok (Text.occursIn right.text.toList (valueText v).toList)
  | _ => .error (.unexpected "text, array or object")

/-- Whether `comparison` holds of `left` and `right`. Operands that are not in order are neither
less nor greater. -/
def test (comparison : Comparison) (left right : Operand) : Except Fault Bool :=
  match comparison with
  | .equal => .ok (left.equal right)
  | .notEqual => .ok (!left.equal right)
  | .less => .ok (left.compare? right == some .lt)
  | .greater => .ok (left.compare? right == some .gt)
  | .atMost => .ok ((left.compare? right).any Ordering.isLE)
  | .atLeast => .ok ((left.compare? right).any Ordering.isGE)
  | .contains => containment left right

end Comparison

/-- A condition. -/
inductive Condition where
  /-- An expression that denotes something that counts as true. -/
  | exists (e : Expression)
  /-- A comparison that holds. -/
  | compare (left : Expression) (comparison : Comparison) (right : Expression)
  /-- Both conditions. -/
  | and (left right : Condition)
  /-- One of the conditions. -/
  | or (left right : Condition)
  deriving Inhabited

/-- Whether a condition holds in `scope`. The second of two conditions counts only if the first one
leaves the question open. -/
def Condition.evaluate (scope : Scope) : Condition → Except Fault Bool
  | .exists e =>
    match e.evaluate scope with
    | .ok operand => .ok operand.isTrue
    | .error _ => .ok false
  | .compare left comparison right => do
    let l ← left.evaluate scope
    let r ← right.evaluate scope
    comparison.test l r
  | .and left right => do
    if ← left.evaluate scope then right.evaluate scope else return false
  | .or left right => do
    if ← left.evaluate scope then return true else right.evaluate scope

end Promptbook.Template
