import Promptbook.Yaml.Scalar
import Promptbook.Yaml.Token

/-!
# Taking YAML Text Apart

The lexer keeps the columns of the open blocks and opens and closes blocks where a word stands. That
a word is the name of a member shows only at the colon behind it; so the lexer remembers where a
name may have started and puts the tokens for it there.
-/

namespace Promptbook.Yaml

/-- A place at which the name of a member may have started. -/
structure KeyStart where
  /-- The number of tokens in front. -/
  number : Nat
  /-- The place. -/
  spot : Spot
  /-- Whether nothing but a name may stand there. -/
  required : Bool

/-- An open indentation. -/
structure Level where
  /-- The column outside of it. -/
  outer : Int
  /-- Whether it belongs to a block, which has to be closed. -/
  isBlock : Bool

/-- How far a text has been taken apart. -/
structure Lexer where
  /-- The tokens so far, each with its column. -/
  tokens : Array (Token × Nat)
  /-- Where the name of a member may have started, outside of all brackets and in each open pair of
  them; the innermost stands first. -/
  keys : List (Option KeyStart)
  /-- Whether the name of a member may start here. -/
  mayStartKey : Bool
  /-- The column of the innermost indentation. -/
  column : Int
  /-- The open indentations, the innermost first. -/
  levels : List Level
  /-- The line and column at which a colon needs no blank behind it. -/
  adjacent : Option (Nat × Nat)
  /-- Whether the brackets of a mapping have been opened. -/
  braced : Bool
  /-- For each open sequence in brackets whether an item that is a single member is open in it. -/
  pairs : List Bool

namespace Lexer

/-- At the start of a text. -/
def start : Lexer := ⟨#[], [none], true, -1, [], none, false, []⟩

/-- Whether brackets are open. -/
def inFlow (l : Lexer) : Bool :=
  1 < l.keys.length

/-- Whether a block is open in the innermost indentation. -/
def inBlock (l : Lexer) : Bool :=
  l.levels.head?.any Level.isBlock

/-- Add a token. -/
def push (l : Lexer) (token : Token) (column : Nat) : Lexer :=
  { l with tokens := l.tokens.push (token, column) }

/-- Put a token in front of others. -/
def insert (l : Lexer) (number : Nat) (token : Token) (column : Nat) : Lexer :=
  { l with tokens := l.tokens.insertIdxIfInBounds number (token, column) }

/-- Say whether the name of a member may start. -/
def allowKey (l : Lexer) (may : Bool) : Lexer :=
  { l with mayStartKey := may }

/-- Remember that the name of a member may start at a place. -/
def saveKey (l : Lexer) (spot : Spot) : Lexer :=
  if l.mayStartKey then
    let required := !l.inFlow && l.column == spot.column && l.inBlock
    { l with keys := some ⟨l.tokens.size, spot, required⟩ :: l.keys.tail }
  else l

/-- Forget the place at which the name of a member may have started. It fails if nothing else may
stand there. -/
def dropKey? (l : Lexer) : Option Lexer :=
  if l.keys.head?.any fun key => key.any KeyStart.required then none
  else some { l with keys := none :: l.keys.tail }

/-- Forget such a place if it is too far in front of a place. Outside of brackets a name stands on
one line and has a limited length. -/
def dropOldKey? (l : Lexer) (spot : Spot) : Option Lexer :=
  let old (key : KeyStart) : Bool :=
    key.spot.line < spot.line || key.spot.column + 1024 < spot.column
  if !l.inFlow && l.keys.head?.any fun key => key.any old then l.dropKey? else some l

/-- Close the indentations behind a column: the tokens for the ends of blocks, and what is left. -/
def closeLevels (column : Int) : (tokens : Array (Token × Nat)) → (inner : Int) → List Level →
    Array (Token × Nat) × Int × List Level
  | tokens, inner, [] => (tokens, inner, [])
  | tokens, inner, level :: levels =>
    if column < inner then
      let tokens := if level.isBlock then tokens.push (.blockEnd, 0) else tokens
      closeLevels column tokens level.outer levels
    else (tokens, inner, level :: levels)

/-- Close the indentations behind a column. Brackets keep them open. -/
def close (l : Lexer) (column : Int) : Lexer :=
  if l.inFlow then l
  else
    let (tokens, inner, levels) := closeLevels column l.tokens l.column l.levels
    { l with tokens := tokens, column := inner, levels := levels }

/-- Give up the innermost indentation if it belongs to no block. -/
def dropHint (l : Lexer) : Lexer :=
  match l.levels with
  | ⟨outer, false⟩ :: levels => { l with column := outer, levels := levels }
  | _ => l

/-- Open a block at a column, if none is open there; its token is put in front of others if a number
is given. -/
def openBlock (l : Lexer) (column : Nat) (number : Option Nat) (token : Token) : Lexer :=
  if l.inFlow then l
  else
    let l := if l.column ≤ column then l.dropHint else l
    if l.column < column then
      let l := { l with levels := ⟨l.column, true⟩ :: l.levels, column := column }
      match number with
      | some number => l.insert number token column
      | none => l.push token column
    else l

/-- Ask for an indentation by one column that belongs to no block. -/
def addHint (l : Lexer) : Lexer :=
  if !l.inFlow && l.inBlock then
    { l with levels := ⟨l.column, false⟩ :: l.levels, column := l.column + 1 }
  else l

/-- Take the brackets of a collection that opens. -/
def openFlow? (l : Lexer) (token : Token) (s : List Spot) : Option (Lexer × List Spot) := do
  let spot := here s
  let l := (l.saveKey spot).addHint
  if 255 < l.keys.length then none
  let l := { l with keys := none :: l.keys, mayStartKey := true }
  let l := if token == .flowMapping then { l with braced := true }
    else { l with pairs := false :: l.pairs }
  let gap ← dropLineGap? true false false (s.drop 1)
  return (l.push token spot.column, gap.rest)

/-- Close the item that is a single member, if one is open. -/
def closePair (l : Lexer) (column : Nat) : Lexer :=
  match l.pairs with
  | true :: pairs =>
    { l with braced := false, pairs := false :: pairs }.push .flowMappingEnd column
  | _ => l

/-- Take the brackets of a collection that closes. -/
def closeFlow? (l : Lexer) (token : Token) (s : List Spot) : Option (Lexer × List Spot) := do
  let spot := here s
  let l ← l.dropKey?
  let l := { l with keys := if l.inFlow then l.keys.tail else l.keys, mayStartKey := false }
  let l := if token == .flowSequenceEnd then
      let l := l.closePair spot.column
      { l with pairs := l.pairs.tail }
    else l
  let gap ← dropLineGap? true false false (s.drop 1)
  let next := here gap.rest
  let l := if l.inFlow then { l with adjacent := some (next.line, next.column) } else l
  return (l.push token spot.column, gap.rest)

/-- Take a comma. -/
def takeComma? (l : Lexer) (s : List Spot) : Option (Lexer × List Spot) := do
  let spot := here s
  let l := ((← l.dropKey?).allowKey true).closePair spot.column
  let gap ← dropLineGap? true false false (s.drop 1)
  return (l.push .comma spot.column, gap.rest)

/-- Take the dash in front of an item. -/
def takeDash? (l : Lexer) (s : List Spot) : Option (Lexer × List Spot) := do
  let spot := here s
  if l.inFlow || !l.mayStartKey then none
  -- What is said about an item stands behind its dash.
  if spot.column == 0 && -1 < l.column && l.tokens.back?.any fun (token, column) =>
      token.isProperty && column == 0 then none
  let l := l.openBlock spot.column none .blockSequence
  let gap ← dropLineGap? true false false (s.drop 1)
  if gap.tab && charAt 0 gap.rest == '-' && isGap (charAt 1 gap.rest) then none
  let rest := (← dropLineGap? false false false gap.rest).rest
  let l := if charAt 0 rest == '\n' || isFlowMark (charAt 0 rest) then l.addHint else l
  let l := (← l.dropKey?).allowKey true
  return (l.push .dash spot.column, rest)

/-- Drop the gap behind a question mark: spaces, line ends and comments, of which one of the first
two has been `found` at the end; `comment` says that a comment has been entered. -/
def dropKeyGap? (found comment : Bool) : List Spot → Option (List Spot)
  | [] => none
  | spot :: s =>
    if spot.char = '\n' then dropKeyGap? true false s
    else if comment && spot.char != textEnd then dropKeyGap? found true s
    else if spot.char = ' ' then dropKeyGap? true false s
    else if spot.char = '#' then dropKeyGap? found true s
    else if found then some (spot :: s) else none

/-- Take the question mark in front of a name. -/
def takeKey? (l : Lexer) (s : List Spot) : Option (Lexer × List Spot) := do
  let spot := here s
  if !l.inFlow && !l.mayStartKey then none
  let l := if l.inFlow then { l with braced := true }
    else l.openBlock spot.column none .blockMapping
  let l ← l.dropKey?
  let rest ← dropKeyGap? false false (s.drop 1)
  if charAt 0 rest == '\t' then none
  return ((l.allowKey !l.inFlow).push .key spot.column, rest)

/-- Whether a tab is all that separates a colon from what looks like a value. -/
def isTabbed (gap : LineGap) : Bool :=
  let c := charAt 0 gap.rest
  !gap.space && (c.isAlphanum || c == '_' || c == '-')

/-- Take the colon in front of a value. -/
def takeValue? (l : Lexer) (s : List Spot) : Option (Lexer × List Spot) := do
  let spot := here s
  let pair := !l.pairs.isEmpty && !l.braced
  let l := if pair then { l with pairs := true :: l.pairs.tail } else l
  let rest ←
    if charAt 1 s = '\t' then do
      let gap ← dropLineGap? true false false (s.drop 1)
      if isTabbed gap then none else some gap.rest
    else some (s.drop 1)
  match l.keys.head?.join with
  | some key =>
    if pair && key.spot.line < spot.line then none
    let l := l.insert key.number .key key.spot.column
    let l := if pair then l.insert key.number .flowMapping key.spot.column else l
    let l := (l.openBlock key.spot.column (some key.number) .blockMapping).addHint
    let l := { l with keys := none :: l.keys.tail, mayStartKey := false }
    return (l.push .value spot.column, rest)
  | none =>
    let l := if pair then l.push .flowMapping spot.column else l
    if !l.inFlow && !l.mayStartKey then none
    let l := (l.openBlock spot.column none .blockMapping).addHint
    return ((l.allowKey !l.inFlow).push .value spot.column, rest)

/-- A character that may stand in the name of an anchor. -/
def isAnchorChar (c : Char) : Bool :=
  !isGap c && !isFlowMark c && c != '\ufeff'

/-- Take an anchor, or a reference to one. -/
def takeAnchor? (l : Lexer) (token : String → Token) (s : List Spot) :
    Option (Lexer × List Spot) :=
  let spot := here s
  let name := charsWhile isAnchorChar (s.drop 1)
  if name.isEmpty then none
  else
    let l := (l.saveKey spot).allowKey false
    some (l.push (token (String.ofList name)) spot.column, dropWhile isAnchorChar (s.drop 1))

/-- A character of a tag handle. -/
def isHandleChar (c : Char) : Bool :=
  c.isAlphanum || c == '_' || c == '-'

/-- A character of an address. -/
def isAddressChar (c : Char) : Bool :=
  c.isAlphanum || "-#;/?:@&=+$,_.!~*'()[]%".toList.contains c

/-- A character of a tag. -/
def isTagChar (c : Char) : Bool :=
  isAddressChar c && !isFlowMark c && c != '!'

/-- The text with the codes in it resolved. -/
def decodeAddress? : List Char → Option (List Char)
  | '%' :: d₁ :: d₂ :: s => do
    let code ← Radix.read? 16 [d₁, d₂]
    return Char.ofNat code :: (← decodeAddress? s)
  | '%' :: _ => none
  | c :: s => (decodeAddress? s).map (c :: ·)
  | [] => some []

/-- Read the handle at the start of a tag, with its exclamation marks. -/
def handle (s : List Spot) : String × List Spot :=
  let name := charsWhile isHandleChar (s.drop 1)
  let rest := dropWhile isHandleChar (s.drop 1)
  if charAt 0 rest = '!' then ("!" ++ String.ofList name ++ "!", rest.drop 1)
  else ("!" ++ String.ofList name, rest)

/-- Read a tag: its handle and what stands behind the handle. -/
def tag? (s : List Spot) : Option ((String × String) × List Spot) :=
  if charAt 1 s = '<' then do
    let rest := dropWhile isAddressChar (s.drop 2)
    let address ← decodeAddress? (charsWhile isAddressChar (s.drop 2))
    if charAt 0 rest = '>' then some (("", String.ofList address), rest.drop 1) else none
  else do
    let (name, middle) := handle s
    let suffix := String.ofList (← decodeAddress? (charsWhile isTagChar middle))
    let rest := dropWhile isTagChar middle
    if 2 ≤ name.length && name.endsWith "!" then
      if suffix.isEmpty then none else some ((name, suffix), rest)
    else
      let suffix := String.ofList (name.toList.drop 1) ++ suffix
      some (if suffix.isEmpty then ("", "!") else ("!", suffix), rest)

/-- Take a tag. -/
def takeTag? (l : Lexer) (s : List Spot) : Option (Lexer × List Spot) := do
  let spot := here s
  let ((name, suffix), rest) ← tag? s
  if !(isGap (charAt 0 rest) || (l.inFlow && isFlowMark (charAt 0 rest))) then none
  let l := (l.saveKey spot).allowKey false
  return (l.push (.tag name suffix) spot.column, rest)

/-- Give up the indentations that belong to no block. -/
def dropHints (l : Lexer) : Lexer :=
  let (column, levels) := go l.column l.levels
  { l with column := column, levels := levels }
where
  /-- The column and the open indentations without those in front that belong to no block. -/
  go : Int → List Level → Int × List Level
    | _, ⟨outer, false⟩ :: levels => go outer levels
    | column, levels => (column, levels)

/-- Take a text without quotes. -/
def takePlain? (l : Lexer) (s : List Spot) : Option (Lexer × List Spot) := do
  let spot := here s
  let l := ((l.saveKey spot).allowKey false).dropHints
  let (text, rest) ← plain? l.inFlow (l.column + 1) s
  let l := if (here rest).leading then l.allowKey true else l
  return (l.push (.scalar true text) spot.column, rest)

/-- Take a block of lines. -/
def takeLines? (l : Lexer) (folded : Bool) (s : List Spot) : Option (Lexer × List Spot) := do
  let spot := here s
  let l := ((l.saveKey spot).allowKey true).dropHints
  let (text, rest) ← block? folded l.column (s.drop 1)
  return (l.push (.scalar false text) spot.column, rest)

/-- Drop blanks, line ends and comments in front of the next word, tabs only where they are not
taken for indentation. It says whether there is a line end; `comment` says that a comment has been
entered. -/
def dropGap? (l : Lexer) (broken comment : Bool) : List Spot → Option (Bool × List Spot)
  | [] => some (broken, [])
  | spot :: s =>
    if spot.char = '\n' then dropGap? l true false s
    else if spot.char = textEnd then some (broken, spot :: s)
    else if comment then dropGap? l broken true s
    else if spot.char = '\t' ∧ !l.levels.isEmpty ∧ spot.leading ∧ spot.column < l.column
        ∧ !isLineDone (spot :: s) then none
    else if isBlank spot.char then dropGap? l broken false s
    else if spot.char = '#' then dropGap? l broken true s
    else some (broken, spot :: s)

/-- Go to the next word. -/
def advance? (l : Lexer) (s : List Spot) : Option (Lexer × List Spot) := do
  let (broken, rest) ← l.dropGap? false false s
  return (if broken && !l.inFlow then l.allowKey true else l, rest)

/-- Take a text in quotes. -/
def takeQuoted? (l : Lexer) (s : List Spot) : Option (Lexer × List Spot) := do
  let spot := here s
  let l := (l.saveKey spot).allowKey false
  let (text, rest) ← quoted? l.inFlow l.column s
  let (l, rest) ← l.advance? rest
  let next := here rest
  let l := { l with adjacent := some (next.line, next.column) }
  return (l.push (.scalar false text) spot.column, rest)

/-- Read a directive behind its sign. -/
def directive? (s : List Spot) : Option (Token × List Spot) := do
  let name := charsWhile isHandleChar s
  let rest := dropWhile isHandleChar s
  if name.isEmpty || !isGap (charAt 0 rest) then none
  match String.ofList name with
  | "YAML" =>
    let rest := dropWhile isBlank rest
    let minor := dropWhile Char.isDigit rest
    if !(charAt 0 rest).isDigit || charAt 0 minor != '.' || !(charAt 1 minor).isDigit then none
    return (.version, dropWhile Char.isDigit (minor.drop 1))
  | "TAG" =>
    let rest := dropWhile isBlank rest
    if charAt 0 rest != '!' then none
    let (name, rest) := handle rest
    if !(name.endsWith "!") || !isBlank (charAt 0 rest) then none
    let rest := dropWhile isBlank rest
    let meaning ← decodeAddress? (charsWhile isAddressChar rest)
    let rest := dropWhile isAddressChar rest
    if meaning.isEmpty || !isGap (charAt 0 rest) then none
    return (.handle name (String.ofList meaning), rest)
  | _ => return (.handle "" "", dropWhile (!isEnd ·) rest)

/-- Take a directive. -/
def takeDirective? (l : Lexer) (s : List Spot) : Option (Lexer × List Spot) := do
  let l := (← (l.close (-1)).dropKey?).allowKey false
  let (token, rest) ← directive? (s.drop 1)
  let rest := (← dropLineGap? true false false rest).rest
  if isEnd (charAt 0 rest) then
    return (l.push token 0, if charAt 0 rest == '\n' then rest.drop 1 else rest)
  else none

/-- Take a mark that starts or ends a document. -/
def takeDocumentMark? (l : Lexer) (token : Token) (s : List Spot) : Option (Lexer × List Spot) := do
  let l := (← (l.close (-1)).dropKey?).allowKey false
  return (l.push token 0, s.drop 3)

/-- Take the next word, at the start of a text that has one. -/
def take? (l : Lexer) (s : List Spot) : Option (Lexer × List Spot) :=
  let spot := here s
  let next := charAt 1 s
  if spot.column = 0 ∧ spot.char = '%' then l.takeDirective? s
  else if startsRule '-' s then l.takeDocumentMark? .documentStart s
  else if startsRule '.' s then
    (l.takeDocumentMark? .documentEnd s).filter fun (_, rest) => isLineDone rest
  else if spot.column < l.column then none
  else match spot.char with
    | '[' => l.openFlow? .flowSequence s
    | '\x7b' => l.openFlow? .flowMapping s
    | ']' => l.closeFlow? .flowSequenceEnd s
    | '\x7d' => l.closeFlow? .flowMappingEnd s
    | ',' => l.takeComma? s
    | '*' => l.takeAnchor? .alias s
    | '&' => l.takeAnchor? .anchor s
    | '!' => l.takeTag? s
    | '\'' | '"' => l.takeQuoted? s
    | '%' | '@' | '\x60' => none
    | c =>
      if c = '-' ∧ isGap next then l.takeDash? s
      else if c = '?' ∧ isGap next then l.takeKey? s
      else if c = ':' ∧ (isGap next
          ∨ (l.inFlow ∧ (isFlowMark next ∨ l.adjacent = some (spot.line, spot.column)))) then
        l.takeValue? s
      else if (c = '|' ∨ c = '>') ∧ !l.inFlow then l.takeLines? (c = '>') s
      else l.takePlain? s

/-- The tokens at the end of the text. -/
def finish? (l : Lexer) : Option (List Token) :=
  l.dropKey?.map fun l => ((l.close (-1)).tokens.map Prod.fst).toList

end Lexer

/-- Take a text apart; `fuel` bounds the number of words. -/
def tokensWithin? : (fuel : Nat) → Lexer → List Spot → Option (List Token)
  | 0, _, _ => none
  | fuel + 1, l, s => do
    let (l, s) ← l.advance? s
    let l ← l.dropOldKey? (here s)
    let l := l.close (here s).column
    if charAt 0 s = textEnd then l.finish?
    else
      let (l, s) ← l.take? s
      tokensWithin? fuel l s

/-- The tokens of a text. -/
def tokens? (text : String) : Option (List Token) :=
  tokensWithin? (text.length + 2) .start (place text.toList)

end Promptbook.Yaml
