import Promptbook.Configuration.Basic
import Promptbook.Decimal.Reader
import Promptbook.Json.Token
import Promptbook.Text.LetterCase

/-!
# Layers of Settings

Settings come in layers. Where two layers both have a table, their tables are laid over each other
name by name; otherwise the upper layer counts. A name at the top of a layer may be a path that
leads into tables and arrays.

Numbers and texts are taken loosely: truth values and texts may stand for numbers, and numbers for
texts.
-/

namespace Promptbook.Layer

mutual

/-- A value laid over `lower`. -/
def cover (lower : Value) : Value → Value
  | .object fields => .object (coverFields (lower.object?.getD []) fields)
  | v => v

/-- Members laid over those of `lower`. -/
def coverFields (lower : Fields Value) : List (String × Value) → Fields Value
  | [] => lower
  | (name, v) :: rest =>
    coverFields (lower.put name (cover ((lower.value? name).getD .null) v)) rest

end

/-- A step of a path behind its first name. -/
inductive PathPart where
  /-- A name in a table. -/
  | key (name : String)
  /-- A place in an array; a negative one counts from the end. -/
  | index (n : Int)
  deriving DecidableEq

/-- A character of a name in a path. -/
def isNameChar (c : Char) : Bool :=
  c.isAlphanum || c == '_' || c == '-'

/-- Read a name in a path. -/
def name? (s : List Char) : Option (String × List Char) :=
  let name := s.takeWhile isNameChar
  if name.isEmpty then none else some (String.ofList name, s.dropWhile isNameChar)

/-- Read a place in an array, with the bracket behind it. -/
def index? (s : List Char) : Option (Int × List Char) :=
  let text := s.dropWhile (· == ' ')
  let (negative, digits) := match text with
    | '-' :: rest => (true, rest)
    | rest => (false, rest)
  let numeral := digits.takeWhile Char.isDigit
  let n : Int := Decimal.digitsValue numeral
  match (digits.dropWhile Char.isDigit).dropWhile (· == ' ') with
  | ']' :: rest => if numeral.isEmpty then none else some (if negative then -n else n, rest)
  | _ => none

/-- Read the steps of a path up to its end; `fuel` bounds their number. -/
def partsWithin? : (fuel : Nat) → List Char → Option (List PathPart)
  | _, [] => some []
  | 0, _ => none
  | fuel + 1, '.' :: s => do
    let (name, rest) ← name? s
    return .key name :: (← partsWithin? fuel rest)
  | fuel + 1, '[' :: s => do
    let (n, rest) ← index? s
    return .index n :: (← partsWithin? fuel rest)
  | _, _ => none

/-- The path that `name` at the top of a layer is; a name that is no path stands for itself. -/
def path (name : String) : String × List PathPart :=
  let parsed := do
    let (first, rest) ← name? name.toList
    return (first, ← partsWithin? rest.length rest)
  parsed.getD (name, [])

/-- The `items` of an array, filled up with absent ones so that the place `n` lies in it, and that
place. -/
def reach (items : List Value) (n : Int) : List Value × Nat :=
  if 0 ≤ n then
    (items ++ List.replicate (n.toNat + 1 - items.length) .null, n.toNat)
  else if n.natAbs ≤ items.length then (items, items.length - n.natAbs)
  else (List.replicate (n.natAbs - items.length) .null ++ items, 0)

/-- Lay `v` over what stands at the end of a path inside another value. -/
def setWithin (v : Value) : List PathPart → Value → Value
  | [], lower => cover lower v
  | .key name :: rest, lower =>
    let fields := lower.object?.getD []
    .object (fields.put name (setWithin v rest ((fields.value? name).getD .null)))
  -- What is no array gives way to one.
  | .index n :: rest, lower =>
    let (items, place) := reach (match lower with
      | .array items => items
      | _ => []) n
    .array (items.set place (setWithin v rest (items[place]?.getD .null)))

/-- The member `name` at the top of a layer, laid over the layers below. -/
def setMember (lower : Fields Value) (name : String) (v : Value) : Fields Value :=
  let (first, rest) := path name
  lower.put first (setWithin v rest ((lower.value? first).getD .null))

/-- The layer `upper` laid over the layers below. -/
def stack (lower upper : Fields Value) : Fields Value :=
  upper.foldl (fun fields entry => setMember fields entry.1 entry.2) lower

/-- The truth value that a text names. -/
def switch? (s : String) : Option Bool :=
  match Text.lowercase s with
  | "true" | "on" | "yes" => some true
  | "false" | "off" | "no" => some false
  | _ => none

/-- The whole number that a value states: a number with a fraction is rounded. -/
def count? : Value → Option Nat
  | .int n => Value.below? Whole.words (.int n)
  | .double x => some x.round.toUInt64.toNat
  | .bool b => some b.toNat
  | .string s => ((switch? s).map Bool.toNat).or (Decimal.readCount? s)
  | _ => none

/-- The number that a value states. -/
def number? : Value → Option Float
  | .bool b => some (Float.ofNat b.toNat)
  | .string s => ((switch? s).map fun b => Float.ofNat b.toNat).or (Decimal.read? s)
  | v => v.double?

/-- The text of a value that is not made of parts. -/
def text? : Value → Option String
  | .string s => some s
  | .bool b => some (if b then "true" else "false")
  | .int n => some (toString n)
  | .double x => some (Decimal.plainLayout.write x)
  | _ => none

/-- The members of a record: those of a table, or the first items of an array. -/
def members? (names : List String) : Value → Option (List (Option Value))
  | .object fields => some (names.map (Fields.value? fields ·))
  | .array items => some ((List.range names.length).map fun i => items[i]?)
  | _ => none

/-- How settings are read from layers. -/
def reading : ScalarReading := ⟨text?, number?, count?, members?⟩

end Promptbook.Layer
