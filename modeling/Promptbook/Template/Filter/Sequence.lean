import Promptbook.Template.Filter.Basic
import Promptbook.Text.LetterCase

/-!
# Filters on Sequences
-/

namespace Promptbook.Template.Filter

/-- The items of an array. -/
def itemsOf (input : Operand) : Except Fault (List Value) :=
  match input.items? with
  | some items => .ok items
  | none => .error (.unexpected "array")

/-- Put an item into a sorted list that is kept backwards, behind the items that it equals. -/
def insertBackwards {α : Type} (less : α → α → Bool) (x : α) : List α → List α
  | [] => [x]
  | y :: rest => if less x y then y :: insertBackwards less x rest else x :: y :: rest

/-- Sort a list. Items that are not in order keep their places. -/
def sortBy {α : Type} (less : α → α → Bool) (items : List α) : List α :=
  (items.foldl (fun sorted x => insertBackwards less x sorted) []).reverse

/-- Whether a value stands before another one; the absent value stands at the end. -/
def precedes (v w : Value) : Bool :=
  if v.isNull then false
  else if w.isNull then true
  else compareValues? v w == some .lt

/-- Whether a value stands before another one when their texts are compared in lowercase. -/
def precedesNaturally (v w : Value) : Bool :=
  if v.isNull then false
  else if w.isNull then true
  else Text.lowercase (valueText v) < Text.lowercase (valueText w)

/-- A member of an object; nothing else has members. -/
def member? (name : String) : Value → Option Value
  | .object fields => Fields.value? fields name
  | _ => none

/-- A member of an object, or the absent value. -/
def memberOrNull (name : String) (v : Value) : Value :=
  (member? name v).getD .null

/-- Sort a sequence, by a member of its items if there is an argument. -/
def sort (less : Value → Value → Bool) (input : Operand) (arguments : List Operand) :
    Except Fault Operand :=
  let items := input.sequence
  match arguments[0]? with
  | none => .ok (ofItems (sortBy less items))
  | some property =>
    if items.all isObject then
      let name := property.text
      .ok (ofItems (sortBy (fun v w => less (memberOrNull name v) (memberOrNull name w)) items))
    else .error (.unexpected "array of objects")

/-- Whether an object has a member that equals a value, or that holds if there is no value. -/
def isSelected (name : String) (target : Option Operand) (v : Value) : Bool :=
  match member? name v, target with
  | none, _ => false
  | some w, none => holds w
  | some w, some target => target.equal (.value w)

/-- The selected objects of an array, which is absent if it holds anything else, or of a single
object. -/
def selectItems (input : Operand) (arguments : List Operand) : Except Fault Operand :=
  let chosen := isSelected (textAt arguments 0) arguments[1]?
  match input with
  | .value (.array items) =>
    .ok (if items.all isObject then ofItems (items.filter chosen) else .value .null)
  | .value (.object fields) => .ok (ofItems ([.object fields].filter chosen))
  | _ => .error (.unexpected "array of objects or a single object")

/-- The items that are not absent, or whose member is not absent if there is an argument. -/
def compact (input : Operand) (arguments : List Operand) : Except Fault Operand := do
  let items ← itemsOf input
  match arguments[0]? with
  | none => return ofItems (items.filter fun v => !v.isNull)
  | some property =>
    if items.all isObject then
      return ofItems (items.filter fun v => !(memberOrNull property.text v).isNull)
    else throw (.unexpected "array of objects")

/-- The first of every group of equal items. -/
def unique (items : List Value) : List Value :=
  items.foldl (fun kept v => if kept.any (valuesEqual · v) then kept else kept ++ [v]) []

/-- The item at the end of a sequence, or the character at the end of a text, that `pick`
chooses. -/
def endOf (pickItem : List Value → Option Value) (pickChar : List Char → Option Char)
    (input : Operand) : Except Fault Operand :=
  match input.items?, input.scalar? with
  | some items, _ => .ok (.value ((pickItem items).getD .null))
  | none, some v =>
    .ok (ofText (((pickChar (valueText v).toList).map String.singleton).getD ""))
  | none, none => .error (.unexpected "text or array")

/-- How large an operand is: the bytes of a text, the parts of an array or object. -/
def size (input : Operand) : Nat :=
  match input with
  | .value (.array items) => items.length
  | .value (.object fields) => fields.length
  | .value .null => 0
  | .value v => (valueText v).utf8ByteSize
  | .empty => 0
  | .blank => 0

/-- The filters on sequences. -/
def sequenceFilters : List Filter := [
  ⟨"join", 0, 1, fun input arguments => do
    let items ← itemsOf input
    return ofText ((textAtOr arguments 0 " ").intercalate (items.map valueText))⟩,
  ⟨"sort", 0, 1, sort precedes⟩,
  ⟨"sort_natural", 0, 1, sort precedesNaturally⟩,
  ⟨"where", 1, 1, selectItems⟩,
  ⟨"uniq", 0, 0, fun input _ => do return ofItems (unique (← itemsOf input))⟩,
  ⟨"reverse", 0, 0, fun input _ => do return ofItems (← itemsOf input).reverse⟩,
  ⟨"map", 1, 0, fun input arguments => do
    return ofItems ((← itemsOf input).filterMap (member? (textAt arguments 0)))⟩,
  ⟨"compact", 0, 1, compact⟩,
  ⟨"concat", 1, 0, fun input arguments => do
    let items ← itemsOf input
    let others ← itemsOf (arguments[0]?.getD (.value .null))
    return ofItems (items ++ others)⟩,
  ⟨"first", 0, 0, fun input _ => endOf List.head? List.head? input⟩,
  ⟨"last", 0, 0, fun input _ => endOf List.getLast? List.getLast? input⟩,
  ⟨"size", 0, 0, fun input _ => .ok (.value (.int (size input)))⟩,
  ⟨"default", 1, 0, fun input arguments =>
    let gives := match input with
      | .value v => isDefaulted v
      | .empty => true
      | .blank => true
    .ok (if gives then arguments[0]?.getD (.value .null) else input)⟩]

end Promptbook.Template.Filter
