import Promptbook.Data.Value
import Promptbook.Data.Whole
import Promptbook.Decimal.Layout
import Promptbook.Decimal.Reader
import Promptbook.Text.Search
import Promptbook.Text.Space

/-!
# Operands

What template expressions denote: values, and the two markers that conditions compare with to ask
whether something is empty or blank. Whole numbers inside templates have sixty-four bits with a
sign; text that spells a number counts as that number where a number is wanted.
-/

namespace Promptbook.Template

/-- What an expression denotes. -/
inductive Operand where
  /-- The value `v`. -/
  | value (v : Value)
  /-- The marker that equals everything empty. -/
  | empty
  /-- The marker that equals everything blank. -/
  | blank
  deriving DecidableEq, Inhabited

mutual

/-- The text of a value in a template. The absent value has no text, and arrays and objects are the
texts of their parts behind one another. -/
def valueText : Value → String
  | .null => ""
  | .bool true => "true"
  | .bool false => "false"
  | .int n => toString n
  | .double x => Decimal.plainLayout.write x
  | .string s => s
  | .array items => itemsText items
  | .object fields => membersText fields

/-- The texts of the items behind one another. -/
def itemsText : List Value → String
  | [] => ""
  | v :: rest => valueText v ++ itemsText rest

/-- The names and texts of the members behind one another. -/
def membersText : List (String × Value) → String
  | [] => ""
  | (name, v) :: rest => name ++ valueText v ++ membersText rest

end

mutual

/-- Whether every whole number in a value is a whole number of templates. -/
def fits : Value → Bool
  | .int n => Whole.fits n
  | .array items => itemsFit items
  | .object fields => membersFit fields
  | .null => true
  | .bool _ => true
  | .double _ => true
  | .string _ => true

/-- Whether every whole number in the items is a whole number of templates. -/
def itemsFit : List Value → Bool
  | [] => true
  | v :: rest => fits v && itemsFit rest

/-- Whether every whole number in the members is a whole number of templates. -/
def membersFit : List (String × Value) → Bool
  | [] => true
  | (_, v) :: rest => fits v && membersFit rest

end

/-- Whether a value is neither absent nor an array or object. -/
def isScalar : Value → Bool
  | .null | .array _ | .object _ => false
  | _ => true

/-- Whether a value is an object. -/
def isObject : Value → Bool
  | .object _ => true
  | _ => false

/-- The whole number that a value is or spells. -/
def whole? : Value → Option Int
  | .int n => some n
  | .string s => (Decimal.readInt? s).filter Whole.fits
  | _ => none

/-- The double that a value is, rounds to or spells. -/
def double? : Value → Option Float
  | .double x => some x
  | .int n => some (Float.ofInt n)
  | .string s => Decimal.read? s
  | _ => none

/-- Only the absent value and `false` count as false. -/
def holds : Value → Bool
  | .null => false
  | .bool b => b
  | _ => true

/-- Whether a value gives way to a default: the absent value, `false`, and what is empty. -/
def isDefaulted : Value → Bool
  | .null => true
  | .bool b => !b
  | .string s => s == ""
  | .array items => items.isEmpty
  | .object fields => fields.isEmpty
  | _ => false

/-- Whether a value equals the marker for empty values. -/
def isEmpty : Value → Bool
  | .null => true
  | .string s => s == ""
  | .array items => items.isEmpty
  | .object fields => fields.isEmpty
  | _ => false

/-- Whether a value equals the marker for blank values. -/
def isBlank : Value → Bool
  | .null => true
  | .bool b => !b
  | .string s => Text.isBlank s.toList
  | .array items => items.isEmpty
  | .object fields => fields.isEmpty
  | _ => false

/-- Equality of scalars. Whole numbers and doubles are compared as doubles, and a truth value
equals whatever counts as the same. -/
def scalarsEqual : Value → Value → Bool
  | .int m, .int n => m == n
  | .int m, .double y => Float.ofInt m == y
  | .double x, .int n => x == Float.ofInt n
  | .double x, .double y => x == y
  | .string s, .string t => s == t
  | .bool b, .bool c => b == c
  | .bool b, _ => b
  | _, .bool c => c
  | _, _ => false

mutual

/-- Equality of values in a template. -/
def valuesEqual : Value → Value → Bool
  | .array vs, w => match w with
    | .array ws => vs.length == ws.length && itemsEqual vs ws
    | .bool c => c
    | _ => false
  | .object fs, w => match w with
    | .object gs => fs.length == gs.length && membersEqual fs gs
    | .bool c => c
    | _ => false
  | .null, w => match w with
    | .null => true
    | .bool c => !c
    | _ => false
  | .bool b, w => b == holds w
  | .int m, w => scalarsEqual (.int m) w
  | .double x, w => scalarsEqual (.double x) w
  | .string s, w => scalarsEqual (.string s) w

/-- Equality of items, one by one. -/
def itemsEqual : List Value → List Value → Bool
  | [], _ => true
  | _ :: _, [] => false
  | v :: vs, w :: ws => valuesEqual v w && itemsEqual vs ws

/-- Whether every member has an equal member of the same name in the other object. -/
def membersEqual : List (String × Value) → Fields Value → Bool
  | [], _ => true
  | (name, v) :: rest, other =>
    (match other.value? name with
      | some w => valuesEqual v w
      | none => false) && membersEqual rest other

end

/-- The order of the doubles `x` and `y`, if they are in order. -/
def compareDoubles? (x y : Float) : Option Ordering :=
  if x < y then some .lt
  else if y < x then some .gt
  else if x == y then some .eq else none

/-- The order of two scalars, if they are comparable. -/
def compareScalars? : Value → Value → Option Ordering
  | .int m, .int n => some (compare m n)
  | .int m, .double y => compareDoubles? (Float.ofInt m) y
  | .double x, .int n => compareDoubles? x (Float.ofInt n)
  | .double x, .double y => compareDoubles? x y
  | .string s, .string t => some (compare s t)
  | .bool b, .bool c => some (compare b c)
  | _, _ => none

mutual

/-- The order of two values, if they are comparable: that of scalars, and for arrays that of the
first items that differ. The absent value is not even comparable to itself. -/
def compareValues? : Value → Value → Option Ordering
  | .null, _ => none
  | .array vs, w => match w with
    | .array ws => compareItems? vs ws
    | _ => none
  | .object fs, w => match w with
    | .object gs => compareMembers? fs gs
    | _ => none
  | .bool b, w => if isScalar w then compareScalars? (.bool b) w else none
  | .int m, w => if isScalar w then compareScalars? (.int m) w else none
  | .double x, w => if isScalar w then compareScalars? (.double x) w else none
  | .string s, w => if isScalar w then compareScalars? (.string s) w else none

/-- The order of two sequences. -/
def compareItems? : List Value → List Value → Option Ordering
  | [], [] => some .eq
  | [], _ :: _ => some .lt
  | _ :: _, [] => some .gt
  | v :: vs, w :: ws =>
    match compareValues? v w with
    | some .eq => compareItems? vs ws
    | other => other

/-- The order of two objects, by names and values. -/
def compareMembers? : List (String × Value) → List (String × Value) → Option Ordering
  | [], [] => some .eq
  | [], _ :: _ => some .lt
  | _ :: _, [] => some .gt
  | (k, v) :: fs, (l, w) :: gs =>
    if k < l then some .lt
    else if l < k then some .gt
    else match compareValues? v w with
      | some .eq => compareMembers? fs gs
      | other => other

end

/-- The part of `v` that `index` leads to: an item of an array, counted from the end if the index is
negative, a member of an object, or the first item, the last item or the size. -/
def part? (v : Value) (index : Value) : Option Value :=
  match v with
  | .array items =>
    match whole? index with
    | some n =>
      if 0 ≤ n then items[n.toNat]?
      else if 0 ≤ n + items.length then items[(n + items.length).toNat]? else none
    | none => match valueText index with
      | "first" => items.head?
      | "last" => items.getLast?
      | "size" => some (.int items.length)
      | _ => none
  | .object fields =>
    match Fields.value? fields (valueText index) with
    | some w => some w
    | none => if valueText index == "size" then some (.int fields.length) else none
  | .null => none
  | scalar =>
    if valueText index == "size" then some (.int (valueText scalar).utf8ByteSize) else none

namespace Operand

/-- The text of an operand. -/
def text : Operand → String
  | value v => valueText v
  | empty => ""
  | blank => ""

/-- Whether an operand counts as true. -/
def isTrue : Operand → Bool
  | value v => holds v
  | empty => false
  | blank => false

/-- The value, if the operand is one and is neither absent nor an array or object. -/
def scalar? : Operand → Option Value
  | value v => if isScalar v then some v else none
  | empty => none
  | blank => none

/-- The items, if the operand is an array. -/
def items? : Operand → Option (List Value)
  | value (.array items) => some items
  | _ => none

/-- The items of an array, no item for the absent value, and every other value as the only item. A
marker, which has no text either, is as good as an absent item. -/
def sequence : Operand → List Value
  | value (.array items) => items
  | value .null => []
  | value v => [v]
  | empty => [.null]
  | blank => [.null]

/-- The whole number that an operand is or spells. -/
def whole? : Operand → Option Int
  | value v => Template.whole? v
  | empty => none
  | blank => none

/-- Equality of operands. A marker equals what it describes, and every marker. -/
def equal : Operand → Operand → Bool
  | value v, value w => valuesEqual v w
  | empty, value w => Template.isEmpty w
  | value v, empty => Template.isEmpty v
  | blank, value w => Template.isBlank w
  | value v, blank => Template.isBlank v
  | empty, _ => true
  | blank, _ => true

/-- The order of two operands, if they are comparable. -/
def compare? : Operand → Operand → Option Ordering
  | value v, value w => compareValues? v w
  | _, _ => none

/-- The part of `operand` that `index` leads to. -/
def part? (operand : Operand) (index : Value) : Option Operand :=
  match operand with
  | value v => (Template.part? v index).map value
  | empty => none
  | blank => none

/-- The part of `operand` that `indexes` lead to. -/
def walk? (operand : Operand) (indexes : List Value) : Option Operand :=
  indexes.foldlM part? operand

/-- The operand with the members of every object in ascending order of the names. -/
def ordered : Operand → Operand
  | value v => value v.ordered
  | empty => empty
  | blank => blank

/-- The operand as a value outside of templates. -/
def toValue : Operand → Value
  | value v => v
  | empty => .string "Empty"
  | blank => .string "Blank"

end Operand

end Promptbook.Template
