import Promptbook.Template.Fault
import Promptbook.Template.Lexis
import Promptbook.Template.Node

/-!
# Contents of Tags

What the words of a tag mean: conditions, loop heads, assignments and the other tags without a
block.
-/

namespace Promptbook.Template

namespace SpelledWord

/-- The expression that a word is, if it has no filters. -/
def expression? (w : SpelledWord) : Option Expression :=
  match w.word with
  | .chain ⟨entry, []⟩ => some entry
  | _ => none

/-- The name that a word is. -/
def name? (w : SpelledWord) : Option String :=
  match w.expression? with
  | some (.variable root []) => some root
  | _ => none

/-- The range that a word is. -/
def range? (w : SpelledWord) : Option (Expression × Expression) :=
  match w.word with
  | .range first last => some (first, last)
  | _ => none

/-- What a loop goes through, if the word says so. -/
def source? (w : SpelledWord) : Option LoopSource :=
  (w.expression?.map LoopSource.items)
    <|> (w.range?.map fun (first, last) => LoopSource.range first last)

/-- The comparison that a word is. -/
def comparison? (w : SpelledWord) : Option Comparison :=
  match w.spelling with
  | "==" => some .equal
  | "!=" => some .notEqual
  | "<>" => some .notEqual
  | "<" => some .less
  | ">" => some .greater
  | "<=" => some .atMost
  | ">=" => some .atLeast
  | "contains" => some .contains
  | _ => none

end SpelledWord

/-- Read a condition without conjunctions. -/
def simpleCondition? : List SpelledWord → Option (Condition × List SpelledWord)
  | [] => none
  | left :: rest =>
    match left.expression? with
    | none => none
    | some l =>
      match rest with
      | [] => some (.exists l, [])
      | w :: rest' =>
        match w.comparison? with
        | none => some (.exists l, rest)
        | some comparison =>
          match rest' with
          | [] => none
          | right :: rest'' =>
            right.expression?.map fun r => (.compare l comparison r, rest'')

/-- Read conditions that are joined by `and` to one that has been read. The fuel bounds their
number. -/
def moreBoth : (fuel : Nat) → Condition → List SpelledWord → Option (Condition × List SpelledWord)
  | 0, left, words => some (left, words)
  | fuel + 1, left, words =>
    match words with
    | [] => some (left, [])
    | w :: rest =>
      if w.spelling == "and" then
        match simpleCondition? rest with
        | none => none
        | some (right, rest) => moreBoth fuel (.and left right) rest
      else some (left, words)

/-- Read a condition without `or`. -/
def bothCondition? (words : List SpelledWord) : Option (Condition × List SpelledWord) :=
  (simpleCondition? words).bind fun (left, rest) => moreBoth rest.length left rest

/-- Read conditions that are joined by `or` to one that has been read, up to the end of the tag.
The fuel bounds their number. -/
def moreEither : (fuel : Nat) → Condition → List SpelledWord → Option Condition
  | _, left, [] => some left
  | 0, _, _ :: _ => none
  | fuel + 1, left, w :: rest =>
    if w.spelling == "or" then
      match bothCondition? rest with
      | none => none
      | some (right, rest) => moreEither fuel (.or left right) rest
    else none

/-- Read a condition that takes a whole tag. -/
def condition? (words : List SpelledWord) : Option Condition :=
  (bothCondition? words).bind fun (left, rest) => moreEither rest.length left rest

/-- Read the parameters of a loop head, with `columns` if the loop makes a table. -/
def loopParameters? (table : Bool) (head : LoopHead) : List SpelledWord → Option LoopHead
  | [] => some head
  | w :: colon :: e :: rest =>
    if w.spelling == "reversed" && !table then
      loopParameters? table { head with reversed := true } (colon :: e :: rest)
    else if colon.spelling != ":" then none
    else match e.expression? with
      | none => none
      | some value =>
        if w.spelling == "limit" then loopParameters? table { head with limit := some value } rest
        else if w.spelling == "offset" then
          loopParameters? table { head with offset := some value } rest
        else if w.spelling == "cols" && table then
          loopParameters? table { head with columns := some value } rest
        else none
  | w :: rest =>
    if w.spelling == "reversed" && !table then
      loopParameters? table { head with reversed := true } rest
    else none

/-- Read a loop head. -/
def loopHead? (table : Bool) : List SpelledWord → Option LoopHead
  | target :: inWord :: source :: rest => do
    let name ← target.name?
    if inWord.spelling != "in" then none
    let source ← source.source?
    loopParameters? table ⟨name, source, none, none, false, none⟩ rest
  | _ => none

/-- Read values that are separated by words that `separates` accepts. -/
def separatedValues? (separates : String → Bool) : List SpelledWord → Option (List Expression)
  | [] => none
  | [w] => w.expression?.map fun e => [e]
  | w :: separator :: rest =>
    if separates separator.spelling then
      w.expression?.bind fun e => (separatedValues? separates rest).map (e :: ·)
    else none

/-- Read the values of an arm. -/
def armValues? (words : List SpelledWord) : Option (List Expression) :=
  separatedValues? (fun s => s == "or" || s == ",") words

/-- Read the values of a cycle; a comma may stand at the end. -/
def cycleValues? : List SpelledWord → Option (List Expression)
  | [] => some []
  | [w] => w.expression?.map fun e => [e]
  | w :: separator :: rest =>
    if separator.spelling == "," then
      w.expression?.bind fun e => (cycleValues? rest).map (e :: ·)
    else none

/-- The name that a word gives to a cycle: a name, or the text of a literal. -/
def cycleName? (w : SpelledWord) : Option String :=
  match w.expression? with
  | some (.variable root []) => some root
  | some (.literal operand) => some operand.text
  | _ => none

/-- A cycle with its values. If its name is empty it is known by its values. -/
def namedCycle (name : String) (values : List Expression) : Node :=
  .cycle (if name == "" then "-".intercalate (values.map Expression.display) else name) values

/-- Read a cycle. -/
def cycle? (words : List SpelledWord) : Option Node :=
  match words with
  | [] => none
  | [w] => (cycleValues? [w]).map (namedCycle "")
  | name :: separator :: rest =>
    if separator.spelling == ":" then
      (cycleName? name).bind fun name => (cycleValues? rest).map (namedCycle name)
    else (cycleValues? words).map (namedCycle "")

/-- Whether words hand variables to another template: a name, a colon and a value each, with commas
between them and perhaps at the end. A single word may follow a value instead of a comma. -/
def handsVariables : List SpelledWord → Bool
  | [] => true
  | name :: colon :: value :: rest =>
    name.name?.isSome && colon.spelling == ":" && value.expression?.isSome
      && match rest with
        | [] => true
        | separator :: rest =>
          if separator.spelling == "," then handsVariables rest else rest.isEmpty
  | _ => false

/-- Read a tag that asks for another template, which sees the variables of this one. -/
def include? : List SpelledWord → Option Node
  | [] => none
  | name :: rest =>
    if handsVariables rest then name.expression?.map fun e => .partialTemplate e none else none

/-- Whether variables are handed over behind a comma, if there are any words. -/
def handsMore : List SpelledWord → Bool
  | [] => true
  | comma :: rest => comma.spelling == "," && handsVariables rest

/-- Read a tag that asks for another template, which sees only the variables that are handed to it,
for one value or for every item of a sequence. -/
def render? : List SpelledWord → Option Node
  | [] => none
  | name :: rest =>
    name.expression?.bind fun e =>
      match rest with
      | how :: what :: asWord :: target :: more =>
        let named := asWord.spelling == "as" && target.name?.isSome && handsMore more
        if how.spelling == "with" then
          if named && what.expression?.isSome then some (.partialTemplate e none) else none
        else if how.spelling == "for" then
          if named then what.source?.map fun source => .partialTemplate e (some source) else none
        else if handsMore rest then some (.partialTemplate e none) else none
      | _ => if handsMore rest then some (.partialTemplate e none) else none

/-- Read an assignment. -/
def assignment (words : List SpelledWord) : Except Misreading Node :=
  match words with
  | [target, equals, value] =>
    match target.name?, equals.spelling == "=", value.word with
    | some name, true, .chain written => written.resolve.map fun chain => .assign name chain
    | _, _, _ => .error (.malformedTag "assign")
  | _ => .error (.malformedTag "assign")

/-- The one name that a tag holds. -/
def onlyName? : List SpelledWord → Option String
  | [w] => w.name?
  | _ => none

/-- The node, or the fault of a tag that does not have its form. -/
def formed {α : Type} (tag : String) : Option α → Except Misreading α
  | some a => .ok a
  | none => .error (.malformedTag tag)

/-- Read a tag without a block, if there is such a tag. -/
def simpleTag? (name : String) (words : List SpelledWord) : Option (Except Misreading Node) :=
  match name with
  | "assign" => some (assignment words)
  | "increment" => some (formed name ((onlyName? words).map .increment))
  | "decrement" => some (formed name ((onlyName? words).map .decrement))
  | "cycle" => some (formed name (cycle? words))
  | "break" => some (formed name (if words.isEmpty then some .leave else none))
  | "continue" => some (formed name (if words.isEmpty then some .skip else none))
  | "include" => some (formed name (include? words))
  | "render" => some (formed name (render? words))
  | _ => none

end Promptbook.Template
