import Promptbook.Ron.Number
import Promptbook.Ron.Text

/-!
# RON Documents

Reads values. A record has the names of its fields, with or without a name of its own in front; it
and a map are both objects. A list and a tuple are both arrays. A name that stands alone is the
absent value, as is the empty tuple.
-/

namespace Promptbook.Ron

/-- How many readings may be inside of each other. An array or object counts as one, and so does
each part of it. -/
def depthLimit : Nat := 128

/-- The value of a word that is not the name of a record. -/
def constant? : String → Option Value
  | "true" => some (.bool true)
  | "false" => some (.bool false)
  | "None" => some .null
  | "inf" | "inff32" | "inff64" => some (.double (1.0 / 0.0))
  | "NaN" | "NaNf32" | "NaNf64" => some (.double (0.0 / 0.0))
  | _ => none

/-- Whether the text behind an opening parenthesis starts with the name of a field. -/
def startsField (s : List Char) : Bool :=
  let next := do
    let (_, rest) ← name? (← dropGap? s)
    dropGap? rest
  (next.bind List.head?) == some ':'

mutual

/-- Read a value, inside of which `depth` further readings may be; `fuel` bounds how often the
readers call each other. -/
def valueWithin? : (fuel depth : Nat) → List Char → Option (Value × List Char)
  | 0, _, _ => none
  | fuel + 1, depth, s =>
    match word? s with
    | some ("Some", rest) => presentWithin? fuel depth rest
    | some (word, rest) =>
      match constant? word with
      | some v => some (v, rest)
      | none => namedWithin? fuel depth rest
    | none =>
      match rawName? s with
      | some (_, rest) => namedWithin? fuel depth rest
      | none =>
        match s with
        | '(' :: ')' :: rest => some (.null, rest)
        | '(' :: rest => groupWithin? fuel depth rest
        | '[' :: rest => arrayWithin? fuel depth ']' rest
        | '\x7b' :: rest => objectWithin? fuel depth false '\x7d' rest
        | s => ((text? s).map fun (text, rest) => (Value.string text, rest)).or (number? s)

/-- Read the value in parentheses behind the word for one that is present. -/
def presentWithin? : (fuel depth : Nat) → List Char → Option (Value × List Char)
  | 0, _, _ | _, 0, _ => none
  | fuel + 1, depth + 1, s => do
    match ← dropGap? s with
    | '(' :: rest =>
      let (v, rest) ← valueWithin? fuel depth (← dropGap? rest)
      match ← comma? rest with
      | (_, ')' :: rest) => return (v, rest)
      | _ => none
    | _ => none

/-- Read what follows the name of a record. -/
def namedWithin? : (fuel depth : Nat) → List Char → Option (Value × List Char)
  | 0, _, _ => none
  | fuel + 1, depth, s => do
    match ← dropGap? s with
    | '(' :: rest => groupWithin? fuel depth rest
    | rest => return (.null, rest)

/-- Read a record or a tuple behind its opening parenthesis. -/
def groupWithin? : (fuel depth : Nat) → List Char → Option (Value × List Char)
  | 0, _, _ => none
  | fuel + 1, depth, s =>
    if startsField s then objectWithin? fuel depth true ')' s else arrayWithin? fuel depth ')' s

/-- Read an array behind its opening bracket. -/
def arrayWithin? : (fuel depth : Nat) → (close : Char) → List Char → Option (Value × List Char)
  | 0, _, _, _ | _, 0, _, _ => none
  | fuel + 1, depth + 1, close, s => do
    let (items, rest) ← itemsWithin? fuel depth close (← dropGap? s)
    return (.array items, rest)

/-- Read an object behind its opening bracket; `named` says whether it is a record. -/
def objectWithin? : (fuel depth : Nat) → (named : Bool) → (close : Char) → List Char →
    Option (Value × List Char)
  | 0, _, _, _, _ | _, 0, _, _, _ => none
  | fuel + 1, depth + 1, named, close, s => do
    let (entries, rest) ← entriesWithin? fuel depth named close (← dropGap? s)
    return (.object (Fields.collect entries), rest)

/-- Read the items of an array and its closing bracket. -/
def itemsWithin? : (fuel depth : Nat) → (close : Char) → List Char →
    Option (List Value × List Char)
  | 0, _, _, _ => none
  | fuel + 1, depth, close, s =>
    if s.head? = some close then some ([], s.tail)
    else match depth with
      | 0 => none
      | depth + 1 => do
        let (v, rest) ← valueWithin? fuel depth s
        let (more, rest) ← comma? rest
        if more then
          let (vs, rest) ← itemsWithin? fuel (depth + 1) close rest
          return (v :: vs, rest)
        else if rest.head? = some close then return ([v], rest.tail)
        else none

/-- Read the members of an object and its closing bracket. -/
def entriesWithin? : (fuel depth : Nat) → (named : Bool) → (close : Char) → List Char →
    Option (List (String × Value) × List Char)
  | 0, _, _, _, _ => none
  | fuel + 1, depth, named, close, s =>
    if s.head? = some close then some ([], s.tail)
    else match depth with
      | 0 => none
      | depth + 1 => do
        let (name, rest) ←
          if named then name? s
          else match ← valueWithin? fuel depth s with
            | (.string name, rest) => some (name, rest)
            | _ => none
        match ← dropGap? rest with
        | ':' :: rest =>
          let (v, rest) ← valueWithin? fuel depth (← dropGap? rest)
          let (more, rest) ← comma? rest
          if more then
            let (entries, rest) ← entriesWithin? fuel (depth + 1) named close rest
            return ((name, v) :: entries, rest)
          else if rest.head? = some close then return ([(name, v)], rest.tail)
          else none
        | _ => none

end

/-- The names of the extensions that a text may ask for. -/
def extensions : List String :=
  ["unwrap_newtypes", "implicit_some", "unwrap_variant_newtypes", "explicit_struct_names"]

/-- Read a fixed text and the gap behind it. -/
def fixed? (text : String) (s : List Char) : Option (List Char) :=
  if text.toList.isPrefixOf s then dropGap? (s.drop text.length) else none

/-- Read the names of extensions up to the closing parenthesis; `fuel` bounds their number. -/
def extensionsWithin? : (fuel : Nat) → List Char → Option (List Char)
  | 0, _ => none
  | fuel + 1, s => do
    let (name, rest) ← word? s
    if !extensions.contains name then none
    match ← comma? rest with
    | (_, ')' :: rest) => return ')' :: rest
    | (true, rest) => extensionsWithin? fuel rest
    | _ => none

/-- The text behind the requests for extensions that it starts with; `fuel` bounds their number. -/
def dropRequestsWithin? : (fuel : Nat) → List Char → Option (List Char)
  | 0, _ => none
  | fuel + 1, s =>
    if s.head? = some '#' then do
      let start ← ["#", "!", "[", "enable", "("].foldlM (fun s text => fixed? text s) s
      let names ← extensionsWithin? (start.length + 1) start
      dropRequestsWithin? fuel (← [")", "]"].foldlM (fun s text => fixed? text s) names)
    else some s

/-- The value that a document describes. -/
def read? (text : String) : Option Value := do
  let s ← dropGap? text.toList
  let s ← dropRequestsWithin? (s.length + 1) s
  let (v, rest) ← valueWithin? (8 * s.length + 8) depthLimit s
  if (← dropGap? rest).isEmpty then some v else none

end Promptbook.Ron
