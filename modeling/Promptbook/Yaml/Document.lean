import Promptbook.Yaml.Lexer
import Promptbook.Yaml.Node

/-!
# YAML Documents

Puts nodes together from tokens. A node may be named by an anchor and stand again wherever a
reference names it. A text holds at most one document.
-/

namespace Promptbook.Yaml

/-- How far tokens have been read. -/
structure Progress where
  /-- The tokens to come. -/
  tokens : List Token
  /-- The meanings of tag handles. -/
  handles : List (String × String)
  /-- The names of all anchors so far, the last one first. -/
  anchors : List String
  /-- The nodes that are complete, each with the number of anchors in front of its own. -/
  nodes : List (Nat × Node)

/-- Reads tokens. -/
abbrev Reader := StateT Progress Option

namespace Reader

/-- The next token. -/
def peek : Reader (Option Token) := do
  return (← get).tokens.head?

/-- Drop the next token. -/
def skip : Reader Unit :=
  modify fun p => { p with tokens := p.tokens.tail }

/-- Whether the next token is one of some; so is the end of the tokens if `none` is among them. -/
def isAt (tokens : List (Option Token)) : Reader Bool := do
  return tokens.contains (← peek)

/-- Drop the next token if it is the given one; the answer says so. -/
def accept (token : Token) : Reader Bool := do
  if ← isAt [some token] then
    skip
    return true
  else return false

/-- Drop the next token, which has to be the given one. -/
def expect (token : Token) : Reader Unit := do
  if !(← accept token) then failure

/-- The meaning of a tag: that of its handle, and what stands behind the handle. A handle between
exclamation marks needs a meaning. -/
def meaning (handle suffix : String) : Reader (String × String) := do
  match (← get).handles.lookup handle with
  | some start => return (start, suffix)
  | none =>
    if handle == "!!" then return (Node.commonTags, suffix)
    else if 2 ≤ handle.length && handle.endsWith "!" then failure
    else return (handle, suffix)

/-- Read an anchor, if there is one; it gives the number of anchors in front. -/
def anchor : Reader (Option Nat) := do
  match ← peek with
  | some (.anchor name) =>
    skip
    let number := (← get).anchors.length
    modify fun p => { p with anchors := name :: p.anchors }
    return some number
  | _ => return none

/-- Read a tag, if there is one. -/
def tag : Reader (Option (String × String)) := do
  match ← peek with
  | some (.tag handle suffix) =>
    skip
    return some (← meaning handle suffix)
  | _ => return none

/-- Read an anchor and a tag in either order, as far as there are any. -/
def properties : Reader (Option Nat × Option (String × String)) := do
  match ← anchor with
  | some number => return (some number, ← tag)
  | none =>
    match ← tag with
    | some tag => return (← anchor, some tag)
    | none => return (none, none)

/-- The node that a reference names; it is illegible inside of itself. -/
def referred (name : String) : Reader Node := do
  let p ← get
  match p.anchors.findIdx? (· == name) with
  | some place => return (p.nodes.lookup (p.anchors.length - 1 - place)).getD .illegible
  | none => failure

/-- Remember a node under the number of its anchor. -/
def remember (number : Option Nat) (node : Node) : Reader Node := do
  match number with
  | some number => modify fun p => { p with nodes := (number, node) :: p.nodes }
  | none => pure ()
  return node

/-- A mapping with names and values in turn. -/
def mapping (parts : List Node) : Reader Node :=
  match Node.membersFrom? none [] parts with
  | some members => return .mapping members
  | none => failure

/-- A node that is left out behind what is said about it, if anything is. -/
def leftOut (named : Bool) (tag : Option (String × String)) : Reader Node :=
  if named then return .ofScalar true tag "" else failure

mutual

/-- Read a node. It may be a block if `block` says so, and its items may stand without indentation
if `flat` says so. `fuel` bounds how often the readers call each other. -/
def nodeWithin : (fuel : Nat) → (block flat : Bool) → Reader Node
  | 0, _, _ => failure
  | fuel + 1, block, flat => do
    match ← peek with
    | some (.alias name) =>
      skip
      referred name
    | _ =>
      let (number, tag) ← properties
      remember number (← contentWithin fuel block flat (number.isSome || tag.isSome) tag)

/-- Read a node behind what is said about it; it may be left out if `named` says so. -/
def contentWithin : (fuel : Nat) → (block flat named : Bool) → (tag : Option (String × String)) →
    Reader Node
  | 0, _, _, _, _ => failure
  | fuel + 1, block, flat, named, tag => do
    match ← peek with
    | some (.scalar plain text) =>
      skip
      return .ofScalar plain tag text
    | some .flowSequence =>
      skip
      return .sequence (← flowItemsWithin fuel true)
    | some .flowMapping =>
      skip
      mapping (← flowMembersWithin fuel true)
    | some .blockSequence =>
      if block then
        skip
        return .sequence (← itemsWithin fuel)
      else leftOut named tag
    | some .blockMapping =>
      if block then
        skip
        mapping (← membersWithin fuel)
      else leftOut named tag
    | some .dash => if flat then return .sequence (← flatItemsWithin fuel) else leftOut named tag
    | _ => leftOut named tag

/-- Read a node unless the next token is one of some, in front of which it is absent. -/
def optionalWithin : (fuel : Nat) → (ends : List (Option Token)) → (block flat : Bool) →
    Reader Node
  | 0, _, _, _ => failure
  | fuel + 1, ends, block, flat => do
    if ← isAt ends then return .null else nodeWithin fuel block flat

/-- Read a colon and the node behind it; both may be left out. -/
def valueWithin : (fuel : Nat) → (ends : List (Option Token)) → (block flat : Bool) → Reader Node
  | 0, _, _, _ => failure
  | fuel + 1, ends, block, flat => do
    if ← accept .value then optionalWithin fuel ends block flat else return .null

/-- Read the items of a block and its end. -/
def itemsWithin : (fuel : Nat) → Reader (List Node)
  | 0 => failure
  | fuel + 1 => do
    if ← accept .blockEnd then return []
    else if ← accept .dash then
      let node ← optionalWithin fuel [some .dash, some .blockEnd] true false
      return node :: (← itemsWithin fuel)
    else failure

/-- Read the items of a sequence without indentation. -/
def flatItemsWithin : (fuel : Nat) → Reader (List Node)
  | 0 => failure
  | fuel + 1 => do
    if ← accept .dash then
      let ends := [some .dash, some .key, some .value, some .blockEnd]
      let node ← optionalWithin fuel ends true false
      return node :: (← flatItemsWithin fuel)
    else return []

/-- Read the members of a block and its end: names and values in turn. -/
def membersWithin : (fuel : Nat) → Reader (List Node)
  | 0 => failure
  | fuel + 1 => do
    let ends := [some .key, some .value, some .blockEnd]
    if ← accept .blockEnd then return []
    else if ← accept .key then
      let name ← optionalWithin fuel ends true true
      let value ← valueWithin fuel ends true true
      return name :: value :: (← membersWithin fuel)
    else if ← isAt [some .value] then
      let value ← valueWithin fuel ends true true
      return .null :: value :: (← membersWithin fuel)
    else failure

/-- Read the items between brackets and the closing bracket; `first` says that none has been
read. -/
def flowItemsWithin : (fuel : Nat) → (first : Bool) → Reader (List Node)
  | 0, _ => failure
  | fuel + 1, first => do
    if ← accept .flowSequenceEnd then return []
    if !first then expect .comma
    if ← accept .flowSequenceEnd then return []
    else
      let node ←
        if ← accept .key then pairWithin fuel
        else nodeWithin fuel false false
      return node :: (← flowItemsWithin fuel false)

/-- Read an item between brackets that is a single member. -/
def pairWithin : (fuel : Nat) → Reader Node
  | 0 => failure
  | fuel + 1 => do
    let ends := [some .comma, some .flowSequenceEnd]
    let name ←
      if ← isAt (some .value :: ends) then
        skip
        pure .null
      else nodeWithin fuel false false
    mapping [name, ← valueWithin fuel ends false false]

/-- Read the members between braces and the closing brace: names and values in turn. `first` says
that none has been read. -/
def flowMembersWithin : (fuel : Nat) → (first : Bool) → Reader (List Node)
  | 0, _ => failure
  | fuel + 1, first => do
    let ends := [some .comma, some .flowMappingEnd]
    if ← accept .flowMappingEnd then return []
    if !first then expect .comma
    if ← accept .flowMappingEnd then return []
    else if ← accept .key then
      let name ← optionalWithin fuel (some .value :: ends) false false
      let value ← valueWithin fuel ends false false
      return name :: value :: (← flowMembersWithin fuel false)
    else if ← isAt [some .value] then
      let value ← valueWithin fuel ends false false
      return .null :: value :: (← flowMembersWithin fuel false)
    else
      let name ← nodeWithin fuel false false
      return name :: .null :: (← flowMembersWithin fuel false)

end

/-- Read the directives in front of a document; `versioned` says that the version is known, and
`fuel` bounds their number. It says whether there are any. -/
def directivesWithin : (fuel : Nat) → (versioned : Bool) → Reader Bool
  | 0, _ => failure
  | fuel + 1, versioned => do
    match ← peek with
    | some .version =>
      if versioned then failure
      skip
      discard (directivesWithin fuel true)
      return true
    | some (.handle name start) =>
      skip
      modify fun p => { p with handles := (name, start) :: p.handles }
      discard (directivesWithin fuel versioned)
      return true
    | _ => return false

/-- Drop marks for ends of documents; `fuel` bounds their number. -/
def dropEndsWithin : (fuel : Nat) → Reader Unit
  | 0 => failure
  | fuel + 1 => do
    if ← accept .documentEnd then dropEndsWithin fuel

/-- Read the document of a text, if there is one. -/
def document : Reader (Option Node) := do
  let fuel := 8 * (← get).tokens.length + 8
  dropEndsWithin fuel
  if ← isAt [none] then return none
  let directed ← directivesWithin fuel false
  let started ← accept .documentStart
  if directed && !started then failure
  let node ←
    if started then
      match ← peek with
      | none | some .version | some (.handle _ _) | some .documentStart | some .documentEnd =>
        pure Node.null
      | _ => nodeWithin fuel true false
    else nodeWithin fuel true false
  dropEndsWithin fuel
  if ← isAt [none] then return some node else failure

end Reader

/-- The value that a text describes; a text without a document describes an empty object. -/
def read? (text : String) : Option Value := do
  let tokens ← tokens? text
  let (node, _) ← Reader.document.run ⟨tokens, [], [], []⟩
  match node with
  | some node => node.toValue?
  | none => some (.object [])

end Promptbook.Yaml
