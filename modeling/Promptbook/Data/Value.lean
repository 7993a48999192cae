import Promptbook.Data.Fields

/-!
# Values

The dynamic values that templates, directives and workflows exchange: JSON values whose integers
and doubles are kept apart, so that `3` and `3.0` are different values.
-/

namespace Promptbook

/-- A JSON value. Objects list their members in ascending order of the names, apart from those that
loops of templates make up for their own rounds. -/
inductive Value where
  /-- The absent value. -/
  | null
  /-- A truth value. -/
  | bool (b : Bool)
  /-- A whole number written without fraction and exponent. -/
  | int (n : Int)
  /-- A binary floating-point number. -/
  | double (x : Float)
  /-- A text. -/
  | string (s : String)
  /-- A sequence of values. -/
  | array (items : List Value)
  /-- Named values. -/
  | object (fields : List (String × Value))
  deriving Inhabited

/-- The variables of a step or of a workflow, by name. -/
abbrev Variables := Fields Value

namespace Value

mutual

/-- Equality of values is decided by comparing them part by part. -/
def decideEq : (v w : Value) → Decidable (v = w)
  | .null, .null => isTrue rfl
  | .bool b, .bool c => if h : b = c then isTrue (by rw [h]) else isFalse (by simpa using h)
  | .int m, .int n => if h : m = n then isTrue (by rw [h]) else isFalse (by simpa using h)
  | .double x, .double y => if h : x = y then isTrue (by rw [h]) else isFalse (by simpa using h)
  | .string s, .string t => if h : s = t then isTrue (by rw [h]) else isFalse (by simpa using h)
  | .array vs, .array ws =>
    match decideEqItems vs ws with
    | isTrue h => isTrue (by rw [h])
    | isFalse h => isFalse (by simpa using h)
  | .object fs, .object gs =>
    match decideEqFields fs gs with
    | isTrue h => isTrue (by rw [h])
    | isFalse h => isFalse (by simpa using h)
  | .null, .bool _ | .null, .int _ | .null, .double _ | .null, .string _ | .null, .array _
  | .null, .object _ | .bool _, .null | .bool _, .int _ | .bool _, .double _ | .bool _, .string _
  | .bool _, .array _ | .bool _, .object _ | .int _, .null | .int _, .bool _ | .int _, .double _
  | .int _, .string _ | .int _, .array _ | .int _, .object _ | .double _, .null
  | .double _, .bool _ | .double _, .int _ | .double _, .string _ | .double _, .array _
  | .double _, .object _ | .string _, .null | .string _, .bool _ | .string _, .int _
  | .string _, .double _ | .string _, .array _ | .string _, .object _ | .array _, .null
  | .array _, .bool _ | .array _, .int _ | .array _, .double _ | .array _, .string _
  | .array _, .object _ | .object _, .null | .object _, .bool _ | .object _, .int _
  | .object _, .double _ | .object _, .string _ | .object _, .array _ =>
    isFalse (by intro h; cases h)

/-- Equality of sequences of values. -/
def decideEqItems : (vs ws : List Value) → Decidable (vs = ws)
  | [], [] => isTrue rfl
  | v :: vs, w :: ws =>
    match decideEq v w, decideEqItems vs ws with
    | isTrue h, isTrue h' => isTrue (by rw [h, h'])
    | isFalse h, _ => isFalse (by intro e; cases e; exact h rfl)
    | _, isFalse h => isFalse (by intro e; cases e; exact h rfl)
  | [], _ :: _ | _ :: _, [] => isFalse (by intro h; cases h)

/-- Equality of members. -/
def decideEqFields : (fs gs : List (String × Value)) → Decidable (fs = gs)
  | [], [] => isTrue rfl
  | (k, v) :: fs, (l, w) :: gs =>
    if hk : k = l then
      match decideEq v w, decideEqFields fs gs with
      | isTrue h, isTrue h' => isTrue (by rw [hk, h, h'])
      | isFalse h, _ => isFalse (by intro e; cases e; exact h rfl)
      | _, isFalse h => isFalse (by intro e; cases e; exact h rfl)
    else isFalse (by intro e; cases e; exact hk rfl)
  | [], _ :: _ | _ :: _, [] => isFalse (by intro h; cases h)

end

instance : DecidableEq Value := decideEq

mutual

/-- Whether two values are alike: `alike v w` compares them part by part, and doubles as numbers, so
that `0.0` and `-0.0` are alike though they are not the same value. `3` and `3.0` are not alike. No
JSON value holds a `NaN`; here one is alike to another, so that every value is alike to itself. -/
def alike : Value → Value → Bool
  | .null, .null => true
  | .bool b, .bool c => b == c
  | .int m, .int n => m == n
  | .double x, .double y => x == y || x.isNaN && y.isNaN
  | .string s, .string t => s == t
  | .array vs, .array ws => alikeItems vs ws
  | .object fs, .object gs => alikeMembers fs gs
  | _, _ => false

/-- Whether two arrays are alike, item by item. -/
def alikeItems : List Value → List Value → Bool
  | [], [] => true
  | v :: vs, w :: ws => v.alike w && alikeItems vs ws
  | _, _ => false

/-- Whether the members of two objects are alike, one by one, and have the same names. -/
def alikeMembers : List (String × Value) → List (String × Value) → Bool
  | [], [] => true
  | (k, v) :: fs, (l, w) :: gs => k == l && v.alike w && alikeMembers fs gs
  | _, _ => false

end

open Float.Model in
/-- As a number, every double `x` but `NaN` is equal to itself. -/
theorem beq_self_of_not_isNaN {x : Float} (h : x.isNaN = false) : (x == x) = true := by
  change (x.toModel.unpack.compare x.toModel.unpack == some .eq) = true
  change x.toModel.unpack.isNaN = false at h
  cases hx : x.toModel.unpack with
  | notANumber =>
    rw [hx] at h
    cases h
  | infinity sign => cases sign <;> rfl
  | zero sign => rfl
  | finite sign mantissa exponent =>
    have hcompare : (compare exponent exponent).then (compare mantissa mantissa) = .eq := by
      rw [Std.compare_self, Std.compare_self, Ordering.eq_then]
    cases sign with
    | positive =>
      change (some ((compare exponent exponent).then (compare mantissa mantissa)) ==
        some .eq) = true
      rw [hcompare, beq_self_eq_true]
    | negative =>
      change (some ((compare exponent exponent).then (compare mantissa mantissa)).swap ==
        some .eq) = true
      rw [hcompare, Ordering.swap_eq, beq_self_eq_true]

mutual

/-- Every value is alike to itself. -/
theorem alike_refl : (v : Value) → v.alike v = true
  | .null => rfl
  | .bool _ | .int _ | .string _ => by rw [alike, beq_self_eq_true]
  | .double x => by
    cases h : x.isNaN with
    | true => rw [alike, h, Bool.and_self, Bool.or_true]
    | false => rw [alike, beq_self_of_not_isNaN h, Bool.true_or]
  | .array items => alikeItems_refl items
  | .object fields => alikeMembers_refl fields

/-- Every array is alike to itself. -/
theorem alikeItems_refl : (items : List Value) → alikeItems items items = true
  | [] => rfl
  | v :: rest => by rw [alikeItems, alike_refl v, alikeItems_refl rest, Bool.and_self]

/-- The members of every object are alike to themselves. -/
theorem alikeMembers_refl : (fields : List (String × Value)) → alikeMembers fields fields = true
  | [] => rfl
  | (name, v) :: rest => by
    rw [alikeMembers, beq_self_eq_true, alike_refl v, alikeMembers_refl rest, Bool.and_self,
      Bool.and_self]

end

/-- Whether a value is the absent one. -/
def isNull : Value → Bool
  | .null => true
  | _ => false

/-- The value `v`, if it is not the absent one. -/
def nonNull? (v : Value) : Option Value :=
  if v.isNull then none else some v

/-- Every value `v` but the absent one is there. -/
theorem nonNull?_of_ne {v : Value} (h : v ≠ .null) : v.nonNull? = some v := by
  cases v with
  | null => exact absurd rfl h
  | _ => rfl

/-- The text of a string. -/
def string? : Value → Option String
  | .string s => some s
  | _ => none

/-- The members of an object. -/
def object? : Value → Option (Fields Value)
  | .object fields => some fields
  | _ => none

/-- A number as a double; a whole number is rounded to the nearest one. -/
def double? : Value → Option Float
  | .int n => some (Float.ofInt n)
  | .double x => some x
  | _ => none

mutual

/-- The value with the absent one in place of every number that is not finite. -/
def finite : Value → Value
  | .double x => if x.isFinite then .double x else .null
  | .array items => .array (finiteItems items)
  | .object fields => .object (finiteMembers fields)
  | .null => .null
  | .bool b => .bool b
  | .int n => .int n
  | .string s => .string s

/-- The items with the absent value in place of every number that is not finite. -/
def finiteItems : List Value → List Value
  | [] => []
  | v :: rest => v.finite :: finiteItems rest

/-- The members with the absent value in place of every number that is not finite. -/
def finiteMembers : List (String × Value) → List (String × Value)
  | [] => []
  | (name, v) :: rest => (name, v.finite) :: finiteMembers rest

end

mutual

/-- The value with the members of every object in ascending order of the names. -/
def ordered : Value → Value
  | .array items => .array (orderedItems items)
  | .object fields => .object (orderedMembers fields)
  | .null => .null
  | .bool b => .bool b
  | .int n => .int n
  | .double x => .double x
  | .string s => .string s

/-- The items, each with its members in order. -/
def orderedItems : List Value → List Value
  | [] => []
  | v :: rest => v.ordered :: orderedItems rest

/-- The members in ascending order of the names, and the members inside them too. -/
def orderedMembers : List (String × Value) → Fields Value
  | [] => []
  | (name, v) :: rest => (orderedMembers rest).put name v.ordered

end

/-- Loose truth: the absent value, `false`, zero and the empty text are false, all else is true. -/
def isTruthy : Value → Bool
  | .null => false
  | .bool b => b
  | .int n => n != 0
  | .double x => x != 0 && !x.isNaN
  | .string s => s != ""
  | .array _ => true
  | .object _ => true

end Value

end Promptbook
