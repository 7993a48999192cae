import Promptbook.Data.Radix
import Promptbook.Yaml.Spot

/-!
# Texts of YAML

The readers for texts without quotes, in quotes, and in blocks of lines. Line ends inside a text are
folded: a single one counts as a space, and of several the first does not count.
-/

namespace Promptbook.Yaml

/-- What has been read behind the last character of a text and does not belong to it yet. -/
inductive Fold where
  /-- Nothing. -/
  | nothing
  /-- Blanks on a line, backwards. -/
  | blanks (chars : List Char)
  /-- So many line ends and one more. -/
  | lines (count : Nat)
  /-- An escaped line end and so many others. -/
  | joined (count : Nat)
  deriving DecidableEq

namespace Fold

/-- The characters that stand for it inside a text, backwards. -/
def chars : Fold → List Char
  | nothing => []
  | blanks chars => chars
  | lines 0 => [' ']
  | lines count => List.replicate count '\n'
  | joined count => List.replicate count '\n'

/-- With one more line end. -/
def addLine : Fold → Fold
  | lines count => lines (count + 1)
  | joined count => joined (count + 1)
  | _ => lines 0

/-- With one more blank; blanks count only on the line of the text in front. -/
def addBlank (c : Char) : Fold → Fold
  | nothing => blanks [c]
  | blanks chars => blanks (c :: chars)
  | fold => fold

/-- Whether there is a line end. -/
def isLines : Fold → Bool
  | lines _ | joined _ => true
  | _ => false

end Fold

/-- Whether a character can belong to a text without quotes; `flow` says that the text stands
between brackets, and `next` is the character behind. -/
def isPlainChar (flow : Bool) (c next : Char) : Bool :=
  if c == ':' && (isGap next || (flow && isFlowMark next)) then false
  else !(flow && isFlowMark c)

/-- Read a text without quotes from behind the characters `text`, which are backwards. On further
lines it stands at the column `indent` or behind it. -/
def plainFrom? (flow : Bool) (indent : Int) (text : List Char) (fold : Fold) :
    List Spot → Option (List Char × List Spot)
  | [] => some (text, [])
  | spot :: s =>
    let c := spot.char
    if isBlank c then
      if c = '\t' ∧ fold.isLines ∧ spot.column < indent ∧ !isLineDone (spot :: s) then none
      else plainFrom? flow indent text (fold.addBlank c) s
    else if c = '\n' then plainFrom? flow indent text fold.addLine s
    else if c = textEnd then some (text, spot :: s)
    else
      let fresh := text.isEmpty || fold != .nothing
      if fresh && (startsDocumentMark (spot :: s) || c == '#') then some (text, spot :: s)
      else if !text.isEmpty && fold != .nothing && !flow && spot.column < indent then
        some (text, spot :: s)
      else if fresh && flow && c == '-' && isFlowMark (charAt 0 s) then none
      else if isPlainChar flow c (charAt 0 s) then
        plainFrom? flow indent (c :: (fold.chars ++ text)) .nothing s
      else some (text, spot :: s)

/-- Read a text without quotes, which has at least one character. -/
def plain? (flow : Bool) (indent : Int) (s : List Spot) : Option (String × List Spot) :=
  if flow && (here s).column < indent then none
  else match plainFrom? flow indent [] .nothing s with
    | some ([], _) | none => none
    | some (text, rest) => some (String.ofList text.reverse, rest)

/-- The character that an escape of one letter stands for. -/
def escaped? : Char → Option Char
  | '0' => some '\x00'
  | 'a' => some '\x07'
  | 'b' => some '\x08'
  | 't' | '\t' => some '\t'
  | 'n' => some '\n'
  | 'v' => some '\x0b'
  | 'f' => some '\x0c'
  | 'r' => some '\r'
  | 'e' => some '\x1b'
  | ' ' => some ' '
  | '"' => some '"'
  | '/' => some '/'
  | '\\' => some '\\'
  | 'N' => some '\x85'
  | '_' => some '\xa0'
  | 'L' => some '\u2028'
  | 'P' => some '\u2029'
  | _ => none

/-- The number of digits of an escape by code. -/
def codeSize? : Char → Option Nat
  | 'x' => some 2
  | 'u' => some 4
  | 'U' => some 8
  | _ => none

/-- Read an escape behind its backslash. -/
def escape? (s : List Spot) : Option (Char × List Spot) :=
  match codeSize? (charAt 0 s) with
  | none => (escaped? (charAt 0 s)).map fun c => (c, s.drop 1)
  | some size => do
    let code ← Radix.read? 16 (((s.drop 1).take size).map Spot.char)
    if code.isValidChar then some (Char.ofNat code, s.drop (size + 1)) else none

/-- Read a text in quotes up to the closing quote; `text` holds the characters read so far,
backwards, and `fuel` bounds the number of further ones. On further lines the text stands at the
column `indent` or behind it. -/
def quotedWithin? (quote : Char) (indent : Int) : (fuel : Nat) → (text : List Char) → Fold →
    List Spot → Option (List Char × List Spot)
  | 0, _, _, _ | _, _, _, [] => none
  | fuel + 1, text, fold, spot :: s =>
    let c := spot.char
    if isBlank c then
      if c = '\t' ∧ fold.isLines ∧ spot.column < indent then none
      else quotedWithin? quote indent fuel text (fold.addBlank c) s
    else if c = '\n' then quotedWithin? quote indent fuel text fold.addLine s
    else if c = quote ∧ fold = .joined 0 ∧ spot.column = 0 then some (text, s)
    else if c = textEnd ∨ spot.column < indent ∨ startsDocumentMark (spot :: s) then none
    else
      let text := fold.chars ++ text
      if c = quote then
        if quote = '\'' ∧ charAt 0 s = '\'' then
          quotedWithin? quote indent fuel ('\'' :: text) .nothing (s.drop 1)
        else some (text, s)
      else if c = '\\' ∧ quote = '"' then
        if charAt 0 s = '\n' then quotedWithin? quote indent fuel text (.joined 0) (s.drop 1)
        else match escape? s with
          | some (d, rest) => quotedWithin? quote indent fuel (d :: text) .nothing rest
          | none => none
      else quotedWithin? quote indent fuel (c :: text) .nothing s

/-- Whether the text behind a closing quote may stand there; `sameLine` says that the opening quote
stands on the same line. -/
def mayFollowQuote (flow sameLine : Bool) (c : Char) : Bool :=
  isEnd c ||
    (if flow then c == ',' || c == '\x7d' || c == ']' || c == ':' else c == ':' && sameLine)

/-- Read a text in quotes. -/
def quoted? (flow : Bool) (indent : Int) (s : List Spot) : Option (String × List Spot) := do
  let (text, rest) ← quotedWithin? (charAt 0 s) indent (s.length + 1) [] .nothing (s.drop 1)
  let gap ← dropLineGap? true false false rest
  let sameLine := (here s).line == (here gap.rest).line
  if mayFollowQuote flow sameLine (charAt 0 gap.rest) then
    some (String.ofList text.reverse, gap.rest)
  else none

/-- What becomes of the line ends at the end of a block of lines. -/
inductive Chomping where
  /-- All are dropped. -/
  | strip
  /-- One is kept. -/
  | clip
  /-- All are kept. -/
  | keep
  deriving DecidableEq

/-- Read the sign for the line ends at the end of a block of lines. -/
def chomping? (s : List Spot) : Option (Chomping × List Spot) :=
  match charAt 0 s with
  | '+' => some (.keep, s.drop 1)
  | '-' => some (.strip, s.drop 1)
  | _ => none

/-- Read the indentation of a block of lines, as a digit other than zero; zero stands for none. -/
def increment? (s : List Spot) : Option (Nat × List Spot) :=
  let c := charAt 0 s
  if !c.isDigit then some (0, s)
  else if c = '0' then none
  else some (c.toNat - '0'.toNat, s.drop 1)

/-- Read the signs behind the one that opens a block of lines, in either order. -/
def blockHeader? (s : List Spot) : Option (Chomping × Nat × List Spot) :=
  match chomping? s with
  | some (chomping, rest) => (increment? rest).map fun (n, rest) => (chomping, n, rest)
  | none => do
    let (n, rest) ← increment? s
    let (chomping, rest) := if n = 0 then (.clip, rest) else (chomping? rest).getD (.clip, rest)
    return (chomping, n, rest)

/-- Drop empty lines, and the blanks in front of the column `indent` on the next line. It gives the
number of lines. -/
def dropEmptyLines (indent : Nat) : (count : Nat) → List Spot → Nat × List Spot
  | count, [] => (count, [])
  | count, spot :: s =>
    if spot.char = ' ' ∧ spot.column < indent then dropEmptyLines indent count s
    else if spot.char = '\n' then dropEmptyLines indent (count + 1) s
    else (count, spot :: s)

/-- Drop empty lines, and all spaces in front of the next line. It gives the number of lines and the
greatest column reached. -/
def measureEmptyLines : (count column : Nat) → List Spot → Nat × Nat × List Spot
  | count, column, [] => (count, column, [])
  | count, column, spot :: s =>
    if spot.char = ' ' then measureEmptyLines count column s
    else
      let column := max column spot.column
      if spot.char = '\n' then measureEmptyLines (count + 1) column s
      else (count, column, spot :: s)

/-- The lines of a block that have been read. -/
structure BlockLines where
  /-- The text without the line ends at its end, backwards. -/
  text : List Char
  /-- Whether there is a line end behind the text. -/
  ended : Bool
  /-- The number of empty lines behind the text. -/
  empty : Nat
  /-- Whether the last line of the text starts with a blank. -/
  blank : Bool

/-- Read the lines of a block at a column; `folded` says that line ends are folded, except next to a
line that starts with a blank. `fuel` bounds the number of lines. -/
def blockLines (folded : Bool) (indent : Nat) : (fuel : Nat) → BlockLines → List Spot →
    BlockLines × List Spot
  | 0, lines, s => (lines, s)
  | fuel + 1, lines, s =>
    let c := charAt 0 s
    if (here s).column ≠ indent ∨ c = textEnd ∨ (indent = 0 ∧ startsRule '.' s) then (lines, s)
    else
      let between :=
        if folded && lines.ended && !lines.blank && !isBlank c then
          if lines.empty = 0 then [' '] else List.replicate lines.empty '\n'
        else List.replicate (lines.empty + lines.ended.toNat) '\n'
      let text := (charsWhile (!isEnd ·) s).reverse ++ between ++ lines.text
      let rest := dropWhile (!isEnd ·) s
      if charAt 0 rest = textEnd then (⟨text, false, 0, isBlank c⟩, rest)
      else
        let (empty, rest) := dropEmptyLines indent 0 (rest.drop 1)
        blockLines folded indent fuel ⟨text, true, empty, isBlank c⟩ rest

/-- The text of a block of lines that has no lines with content; `broken` says that a line end
stands behind its header. -/
def emptyBlock (chomping : Chomping) (broken : Bool) (empty : Nat) : String :=
  match chomping with
  | .strip => ""
  | .clip => if broken then "\n" else ""
  | .keep => if broken then String.ofList (List.replicate (max empty 1) '\n') else ""

/-- Read a block of lines behind the sign that opens it, inside of a block at the column `outer`. -/
def block? (folded : Bool) (outer : Int) (s : List Spot) : Option (String × List Spot) := do
  let (chomping, increment, rest) ← blockHeader? s
  let rest := (← dropLineGap? true false false rest).rest
  if !isEnd (charAt 0 rest) then none
  let broken := charAt 0 rest == '\n'
  let rest := if broken then rest.drop 1 else rest
  if charAt 0 rest = '\t' then none
  let (empty, indent, rest) :=
    if increment = 0 then
      let (empty, column, rest) := measureEmptyLines 0 0 rest
      (empty, max column (outer + 1).toNat, rest)
    else
      let indent := (max outer 0).toNat + increment
      let (empty, rest) := dropEmptyLines indent 0 rest
      (empty, indent, rest)
  if charAt 0 rest = textEnd then
    return (emptyBlock chomping (broken && (here s).line < (here rest).line) empty, rest)
  let column := (here rest).column
  if column < indent && outer < column then none
  let (lines, rest) := blockLines folded indent (rest.length + 1) ⟨[], false, empty, false⟩ rest
  let last := if charAt 0 rest = textEnd && max indent 1 ≤ (here rest).column then 1 else 0
  let ends := match chomping with
    | .strip => 0
    | .clip => lines.ended.toNat + last
    | .keep => lines.ended.toNat + last + lines.empty
  return (String.ofList (List.replicate ends '\n' ++ lines.text).reverse, rest)

end Promptbook.Yaml
