/-!
# Characters and Places of YAML

Where a character stands on its line decides what it means, so a text is taken apart into characters
with their places. The list of them ends with a character for the end of the text.
-/

namespace Promptbook.Yaml

/-- A character with its place. -/
structure Spot where
  /-- The character. -/
  char : Char
  /-- The number of lines in front. -/
  line : Nat
  /-- The number of characters in front on the line. -/
  column : Nat
  /-- Whether only blanks stand in front on the line. -/
  leading : Bool
  deriving DecidableEq

/-- The character for the end of a text. -/
def textEnd : Char := '\x00'

/-- A space or a tab. -/
def isBlank (c : Char) : Bool :=
  c == ' ' || c == '\t'

/-- The end of a line or of the text. -/
def isEnd (c : Char) : Bool :=
  c == '\n' || c == textEnd

/-- A blank, or the end of a line or of the text. -/
def isGap (c : Char) : Bool :=
  isBlank c || isEnd c

/-- A character that has a meaning between the brackets of a collection. -/
def isFlowMark (c : Char) : Bool :=
  c == ',' || c == '[' || c == ']' || c == '\x7b' || c == '\x7d'

/-- A text with one spelling of line ends. -/
def unifyLineEnds : List Char → List Char
  | '\r' :: '\n' :: s => '\n' :: unifyLineEnds s
  | '\r' :: s => '\n' :: unifyLineEnds s
  | c :: s => c :: unifyLineEnds s
  | [] => []

/-- The characters with their places from a place on, up to the end of the text. -/
def placeFrom (line column : Nat) (leading : Bool) : List Char → List Spot
  | [] => [⟨textEnd, line, column, leading⟩]
  | c :: s =>
    if c = textEnd then [⟨c, line, column, leading⟩]
    else if c = '\n' then ⟨c, line, column, leading⟩ :: placeFrom (line + 1) 0 true s
    else ⟨c, line, column, leading⟩ :: placeFrom line (column + 1) (leading && isBlank c) s

/-- The characters of a text with their places. -/
def place (s : List Char) : List Spot :=
  placeFrom 0 0 true (unifyLineEnds s)

/-- The place at the start of a text. -/
def here (s : List Spot) : Spot :=
  s.head?.getD ⟨textEnd, 0, 0, true⟩

/-- A character of a text. -/
def charAt (n : Nat) (s : List Spot) : Char :=
  (s[n]?.map Spot.char).getD textEnd

/-- The characters at the start of a text that have a property. -/
def charsWhile (p : Char → Bool) (s : List Spot) : List Char :=
  (s.takeWhile fun spot => p spot.char).map Spot.char

/-- The text behind the characters at its start that have a property. -/
def dropWhile (p : Char → Bool) (s : List Spot) : List Spot :=
  s.dropWhile fun spot => p spot.char

/-- Whether a line starts with three times the same mark. -/
def startsRule (mark : Char) (s : List Spot) : Bool :=
  (here s).column == 0 && charAt 0 s == mark && charAt 1 s == mark && charAt 2 s == mark
    && isGap (charAt 3 s)

/-- Whether a line starts or ends a document. -/
def startsDocumentMark (s : List Spot) : Bool :=
  startsRule '-' s || startsRule '.' s

/-- What stands between a word and the next one or the end of the line. -/
structure LineGap where
  /-- Whether there is a tab. -/
  tab : Bool
  /-- Whether there is a space. -/
  space : Bool
  /-- The text behind. -/
  rest : List Spot

/-- Drop spaces, tabs if `tabs` says so, and a comment, which needs a blank in front. `tab` and
`space` say what has been dropped before. -/
def dropLineGap? (tabs : Bool) (tab space : Bool) : List Spot → Option LineGap
  | [] => some ⟨tab, space, []⟩
  | spot :: s =>
    if spot.char = ' ' then dropLineGap? tabs tab true s
    else if spot.char = '\t' ∧ tabs then dropLineGap? tabs true space s
    else if spot.char = '#' then
      if tab || space then some ⟨tab, space, dropWhile (!isEnd ·) s⟩ else none
    else some ⟨tab, space, spot :: s⟩

/-- Whether nothing but blanks and a comment stands on the rest of a line. -/
def isLineDone (s : List Spot) : Bool :=
  (dropLineGap? true false false s).any fun gap => isEnd (charAt 0 gap.rest)

end Promptbook.Yaml
