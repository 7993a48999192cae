import Promptbook.Data.Radix
import Promptbook.Data.Value
import Promptbook.Data.Whole
import Promptbook.Decimal.Reader
import Promptbook.Yaml.Token

/-!
# Nodes of YAML

What the tokens of a text denote, and the kinds of texts without quotes. A number with a fraction or
an exponent keeps its text, and a mapping the order of its members.
-/

namespace Promptbook.Yaml

/-- A node. -/
inductive Node where
  /-- The absent value. -/
  | null
  /-- A truth value. -/
  | bool (b : Bool)
  /-- A whole number. -/
  | int (n : Int)
  /-- Another number, as its text. -/
  | real (text : String)
  /-- A text. -/
  | string (s : String)
  /-- A sequence. -/
  | sequence (items : List Node)
  /-- A mapping. -/
  | mapping (members : List (Node × Node))
  /-- A text that is not of the kind that its tag asks for. -/
  | illegible
  deriving Inhabited

namespace Node

/-- The whole number that a text spells, if it fits a word with a sign. -/
def readInt? (s : String) : Option Int :=
  (Decimal.readInt? s).filter Whole.fits

/-- The whole number that digits to a base spell, which may have a sign, if it fits a word. -/
def readBased? (base : Nat) (s : List Char) : Option Int :=
  let (negative, digits) := Decimal.Numeral.takeSign s
  ((Radix.read? base digits).map fun n => if negative then -(n : Int) else n).filter Whole.fits

/-- Whether a text is one of the names of numbers that are not finite. -/
def isUnbounded (s : String) : Bool :=
  [".inf", ".Inf", ".INF", "+.inf", "+.Inf", "+.INF", "-.inf", "-.Inf", "-.INF", ".nan", ".NaN",
    ".NAN"].contains s

/-- Whether a text spells a number, or names one that is not finite. -/
def isReal (s : String) : Bool :=
  isUnbounded s || (s.toList.any Char.isDigit && (Decimal.read? s).isSome)

/-- The whole number that a text without quotes spells in one of its special forms: with a base, or
with a plus sign. -/
def specialInt? (s : String) : Option Int :=
  match s.toList with
  | '0' :: 'x' :: digits => readBased? 16 digits
  | '0' :: 'o' :: digits => readBased? 8 digits
  | '+' :: rest => readInt? (String.ofList rest)
  | _ => none

/-- The node that a text without quotes is. -/
def ofPlain (s : String) : Node :=
  match specialInt? s with
  | some n => int n
  | none =>
    match s with
    | "~" | "null" => null
    | "true" => bool true
    | "false" => bool false
    | s =>
      match readInt? s with
      | some n => int n
      | none => if isReal s then real s else string s

/-- The node that a text without quotes is as a value of a kind. -/
def ofKind (kind : String) (s : String) : Node :=
  match kind with
  | "bool" => if s == "true" then bool true else if s == "false" then bool false else illegible
  | "int" => ((readInt? s).map int).getD illegible
  | "float" => if isReal s then real s else illegible
  | "null" => if s == "~" || s == "null" then null else illegible
  | _ => string s

/-- The start of the tags of common kinds. -/
def commonTags : String := "tag:yaml.org,2002:"

/-- The node that a text is. A tag of a text without quotes asks for a kind. -/
def ofScalar (plain : Bool) (tag : Option (String × String)) (s : String) : Node :=
  match plain, tag with
  | false, _ => string s
  | true, none => ofPlain s
  | true, some (handle, suffix) => if handle == commonTags then ofKind suffix s else string s

/-- Whether a node is illegible. -/
def isIllegible : Node → Bool
  | illegible => true
  | _ => false

/-- The name of a member that a node can be, with its kind; names of different kinds differ. -/
def name? : Node → Option (Nat × String)
  | bool b => some (0, if b then "true" else "false")
  | int n => some (1, toString n)
  | real text => some (2, text)
  | string s => some (3, s)
  | _ => none

/-- The members of a mapping from its names and values in turn. An illegible node is passed over
where a name is due, and a name may not occur twice. -/
def membersFrom? (name : Option Node) (members : List (Node × Node)) :
    List Node → Option (List (Node × Node))
  | [] => some members.reverse
  | node :: rest =>
    match name with
    | none => membersFrom? (if node.isIllegible then none else some node) members rest
    | some name =>
      if name.name?.isSome && members.any fun member => member.1.name? == name.name? then none
      else membersFrom? none ((name, node) :: members) rest

mutual

/-- The value of a node. Members are named by texts, numbers and truth values only, and a number has
to be spelled. -/
def toValue? : Node → Option Value
  | null | illegible => some .null
  | bool b => some (.bool b)
  | int n => some (.int n)
  | real text => (Decimal.read? text).map .double
  | string s => some (.string s)
  | sequence items => (itemValues? items).map .array
  | mapping members => (memberValues? members).map fun entries => .object (Fields.collect entries)

/-- The values of nodes. -/
def itemValues? : List Node → Option (List Value)
  | [] => some []
  | node :: rest => do
    let v ← node.toValue?
    return v :: (← itemValues? rest)

/-- The values of members, with their names. -/
def memberValues? : List (Node × Node) → Option (List (String × Value))
  | [] => some []
  | (name, node) :: rest => do
    let (_, name) ← name.name?
    let v ← node.toValue?
    return (name, v) :: (← memberValues? rest)

end

end Node

end Promptbook.Yaml
