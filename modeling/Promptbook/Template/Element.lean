import Promptbook.Template.Lexis

/-!
# Elements of a Template

A template is a sequence of plain texts, outputs between double braces, and tags between braces
with percent signs. A hyphen inside a delimiter takes the blanks beside it away. The elements
partition the template: their spellings behind one another are the template.
-/

namespace Promptbook.Template

/-- An element of a template. -/
inductive Element where
  /-- A plain text. -/
  | text
  /-- An output. -/
  | output (chain : WrittenChain)
  /-- A tag. -/
  | tag (name : String) (words : List SpelledWord)
  /-- A character where neither of them can be read. -/
  | invalid
  deriving Inhabited

/-- An element with its spelling. -/
structure SpelledElement where
  /-- The element. -/
  element : Element
  /-- Its spelling. -/
  spelling : List Char
  deriving Inhabited

/-- The opening delimiter of outputs. -/
def outputOpening : String := "\x7b\x7b"

/-- The closing delimiter of outputs. -/
def outputClosing : String := "\x7d\x7d"

/-- The opening delimiter of tags. -/
def tagOpening : String := "\x7b%"

/-- The closing delimiter of tags. -/
def tagClosing : String := "%\x7d"

/-- Read an opening `delimiter`; one with a hyphen takes the blanks before it. -/
def opening? (delimiter : String) (s : List Char) : Option (List Char) :=
  match after? (delimiter ++ "-") (skipGap s) with
  | some rest => some rest
  | none => after? delimiter s

/-- Read a closing `delimiter`; one with a hyphen takes the blanks behind it. -/
def closing? (delimiter : String) (s : List Char) : Option (List Char) :=
  match after? ("-" ++ delimiter) s with
  | some rest => some (skipGap rest)
  | none => after? delimiter s

/-- Read an output. -/
def output? (s : List Char) : Option (Element × List Char) := do
  let rest ← opening? outputOpening s
  let (chain, rest) ← writtenChain? (skipGap rest)
  let rest ← closing? outputClosing (skipGap rest)
  return (.output chain, rest)

/-- Read a tag. -/
def tag? (s : List Char) : Option (Element × List Char) := do
  let rest ← opening? tagOpening s
  let (name, rest) ← identifier? (skipGap rest)
  let (words, rest) := spelledWords rest.length rest
  let rest ← closing? tagClosing (skipGap rest)
  return (.tag name words, rest)

/-- Whether an output or a tag opens at the start of `s`. -/
def opens (s : List Char) : Bool :=
  (opening? tagOpening s).isSome || (opening? outputOpening s).isSome

/-- Cut a text where the first output or tag opens. -/
def plainText : List Char → List Char × List Char
  | [] => ([], [])
  | c :: s =>
    if opens (c :: s) then ([], c :: s)
    else
      let (text, rest) := plainText s
      (c :: text, rest)

/-- Read the element at the start of a text that is not empty, with the rest of the text. -/
def element (c : Char) (s : List Char) : SpelledElement × List Char :=
  match output? (c :: s) <|> tag? (c :: s) with
  | some (element, rest) =>
    (⟨element, (c :: s).take (s.length + 1 - rest.length)⟩, rest)
  | none =>
    match plainText (c :: s) with
    | ([], _) => (⟨.invalid, [c]⟩, s)
    | (text, rest) => (⟨.text, text⟩, rest)

/-- Read elements. The fuel bounds their number. -/
def elementsWith : (fuel : Nat) → List Char → List SpelledElement
  | 0, _ => []
  | _ + 1, [] => []
  | fuel + 1, c :: s =>
    let (first, rest) := element c s
    first :: elementsWith fuel rest

/-- The elements of the template `s`. -/
def elements (s : List Char) : List SpelledElement :=
  elementsWith s.length s

end Promptbook.Template
