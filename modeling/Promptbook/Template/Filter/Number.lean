import Promptbook.Decimal.Remainder
import Promptbook.Template.Filter.Basic

/-!
# Filters on Numbers

Arithmetic is done on whole numbers if both operands are or spell whole numbers, and on doubles if
both are or spell numbers. Whole numbers wrap around at sixty-four bits.
-/

namespace Promptbook.Template.Filter

/-- An operation on two numbers. -/
def arithmetic (onWhole : Int → Int → Int) (onDoubles : Float → Float → Float)
    (input argument : Operand) : Except Fault Operand :=
  match input.scalar?, argument.scalar? with
  | some x, some y =>
    match whole? x, whole? y with
    | some m, some n => .ok (.value (.int (Whole.wrap (onWhole m n))))
    | _, _ => match double? x, double? y with
      | some a, some b => .ok (.value (.double (onDoubles a b)))
      | _, _ => .error (.unexpected "number")
  | _, _ => .error (.unexpected "number")

/-- Whether an operand is or spells the number zero. -/
def isZero (operand : Operand) : Bool :=
  match operand.scalar? with
  | none => false
  | some x => match whole? x, double? x with
    | some n, _ => n == 0
    | none, some y => y == 0
    | none, none => false

/-- An operation on two numbers of which the second must not be zero. -/
def division (onWhole : Int → Int → Int) (onDoubles : Float → Float → Float)
    (input argument : Operand) : Except Fault Operand :=
  if isZero argument then .error .divisionByZero
  else arithmetic onWhole onDoubles input argument

/-- The filter that does an operation with its argument. -/
def withNumber (name : String) (f : Operand → Operand → Except Fault Operand) : Filter :=
  ⟨name, 1, 0, fun input arguments => f input (arguments[0]?.getD (.value .null))⟩

/-- The double of an operand. -/
def doubleOf (input : Operand) : Except Fault Float :=
  match input.scalar?.bind double? with
  | some x => .ok x
  | none => .error (.unexpected "number")

/-- The filter that turns a number into a whole number. -/
def toWhole (name : String) (f : Float → Float) : Filter :=
  ⟨name, 0, 0, fun input _ => (doubleOf input).map fun x => .value (.int (f x).toInt64.toInt)⟩

/-- A power of a double by repeated squaring, which rounds after each multiplication. -/
def power (base : Float) (exponent : Nat) : Float :=
  go base 1 exponent
where
  /-- Multiply a product by a power. -/
  go (square product : Float) (n : Nat) : Float :=
    if n = 0 then product
    else go (square * square) (if n % 2 = 1 then product * square else product) (n / 2)
  termination_by n

/-- The largest count of decimal places. -/
def maxPlaces : Int := (1 <<< 31 : Nat) - 1

/-- Round a number to a count of decimal places; without places the result is a whole number. -/
def round (input : Operand) (places : Int) : Except Fault Operand := do
  let x ← doubleOf input
  if places ≤ 0 then return .value (.int x.round.toInt64.toInt)
  if maxPlaces < places then throw (.unexpected "count of decimal places")
  let scale := power 10 places.toNat
  return .value (.double ((x * scale).round / scale))

/-- The size of a number without its sign. -/
def absolute (input : Operand) : Except Fault Operand :=
  match input.scalar? with
  | none => .error (.unexpected "number")
  | some x => match whole? x, double? x with
    | some n, _ => .ok (.value (.int (Whole.wrap n.natAbs)))
    | none, some y => .ok (.value (.double y.abs))
    | none, none => .error (.unexpected "number")

/-- The greater of two doubles; an undefined one counts less than every other. -/
def greater (x y : Float) : Float :=
  if x.isNaN || x < y then y else x

/-- The smaller of two doubles; an undefined one counts more than every other. -/
def smaller (x y : Float) : Float :=
  if x.isNaN || y < x then y else x

/-- The filters on numbers. -/
def numberFilters : List Filter := [
  withNumber "plus" (arithmetic (· + ·) (· + ·)),
  withNumber "minus" (arithmetic (· - ·) (· - ·)),
  withNumber "times" (arithmetic (· * ·) (· * ·)),
  withNumber "divided_by" (division Int.tdiv (· / ·)),
  withNumber "modulo" (division Int.tmod Decimal.remainder),
  withNumber "at_least" (arithmetic max greater),
  withNumber "at_most" (arithmetic min smaller),
  ⟨"abs", 0, 0, fun input _ => absolute input⟩,
  toWhole "ceil" Float.ceil,
  toWhole "floor" Float.floor,
  ⟨"round", 0, 1, fun input arguments => do round input (← wholeAtOr arguments 0 0)⟩]

end Promptbook.Template.Filter
