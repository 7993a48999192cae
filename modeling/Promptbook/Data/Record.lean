import Promptbook.Data.Value

/-!
# Records

Reads the parts of a record out of a value. A record is written as an object with its members by
name, or as an array with its members in the order in which the record declares them. A record that
is one of several alternatives also carries the name of the alternative.
-/

namespace Promptbook.Value

/-- The members of a record with the listed names: those of an object, whose other members do not
count, or exactly the items of an array. -/
def members? (names : List String) : Value → Option (List (Option Value))
  | .object fields => some (names.map (Fields.value? fields ·))
  | .array items => if items.length = names.length then some (items.map some) else none
  | _ => none

/-- The members of a record of which any may be missing: those of an object, or the items of an
array, which gives the first of them. -/
def optionalMembers? (names : List String) : Value → Option (List (Option Value))
  | .object fields => some (names.map (Fields.value? fields ·))
  | .array items =>
    if items.length ≤ names.length then
      some (items.map some ++ List.replicate (names.length - items.length) none)
    else none
  | _ => none

/-- The name of the alternative that a record belongs to, and the record: the member `tag` of an
object, or the first item of an array. -/
def alternative? (tag : String) : Value → Option (String × Value)
  | .object fields =>
    match Fields.value? fields tag with
    | some (.string name) => some (name, .object fields)
    | _ => none
  | .array (.string name :: items) => some (name, .array items)
  | _ => none

/-- The name of an alternative without members: a text, or an object whose single member is
absent. -/
def constant? : Value → Option String
  | .string name => some name
  | .object [(name, .null)] => some name
  | _ => none

/-- A whole number below `bound`. -/
def below? (bound : Nat) : Value → Option Nat
  | .int n => if 0 ≤ n ∧ n < bound then some n.toNat else none
  | _ => none

/-- The values of an array, each read by `read?`. -/
def listOf? {α : Type} (read? : Value → Option α) : Value → Option (List α)
  | .array items => items.mapM read?
  | _ => none

/-- A member that may be missing or absent, read by `read?` if it is there. -/
def orAbsent? {α : Type} (read? : Value → Option α) : Option Value → Option (Option α)
  | none | some .null => some none
  | some v => (read? v).map some

end Promptbook.Value
