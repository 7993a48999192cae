import Promptbook.Data.Radix
import Promptbook.Data.Value
import Promptbook.Text.Space

/-!
# INI Documents

Settings in sections: a header in brackets opens a section, and a name with an equals sign or a
colon behind it has the rest of its line as value. All values are texts. A comment takes a line of
its own, without blanks in front.
-/

namespace Promptbook.Ini

/-- The character that a letter behind a backslash stands for; other characters stand for
themselves. -/
def escaped : Char → Char
  | '0' => '\x00'
  | 'a' => '\x07'
  | 'b' => '\x08'
  | 't' => '\t'
  | 'r' => '\r'
  | 'n' => '\n'
  | c => c

/-- Read a text up to one of the characters that end it, which is left. A backslash in front of a
line end joins two lines, and one in front of an `x` announces four digits to base sixteen. The text
may also end with the document if `mayStop` says so. -/
def textUntil? (ends : Char → Bool) (mayStop : Bool) : List Char → Option (List Char × List Char)
  | [] => if mayStop then some ([], []) else none
  | c :: s =>
    if ends c then some ([], c :: s)
    else if c = '\\' then
      match s with
      | [] => none
      | '\n' :: rest => textUntil? ends mayStop rest
      | 'x' :: d₁ :: d₂ :: d₃ :: d₄ :: rest =>
        match Radix.read? 16 [d₁, d₂, d₃, d₄] with
        | some n =>
          if n.isValidChar then
            (textUntil? ends mayStop rest).map fun (text, rest) => (Char.ofNat n :: text, rest)
          else none
        | none => none
      | 'x' :: _ => none
      | d :: rest =>
        (textUntil? ends mayStop rest).map fun (text, rest) => (escaped d :: text, rest)
    else (textUntil? ends mayStop s).map fun (text, rest) => (c :: text, rest)

/-- Whether a character ends a line. -/
def isLineEnd (c : Char) : Bool :=
  c == '\n' || c == '\r'

/-- Read a value; `fuel` bounds the number of its parts. Parts in quotes may stand in front of the
rest of the line, which loses the white space at its end; `first` says whether no part has been
read. -/
def partsWithin? : (fuel : Nat) → (first : Bool) → List Char → Option (List Char × List Char)
  | 0, _, _ => none
  | _, _, [] => some ([], [])
  | fuel + 1, first, c :: s =>
    if c = '"' ∨ c = '\'' then do
      let (part, rest) ← textUntil? (· = c) false s
      let (others, rest) ← partsWithin? fuel false (rest.drop 1)
      return (part ++ others, rest)
    else do
      let (part, rest) ← textUntil? isLineEnd true (c :: s)
      return (if first then Text.trimSpace part else Text.dropSpaceRight part, rest)

/-- Read the value behind its sign. -/
def value? (s : List Char) : Option (String × List Char) :=
  let text := s.dropWhile fun c => Text.isSpace c && !isLineEnd c
  (partsWithin? (text.length + 1) true text).map fun (value, rest) => (String.ofList value, rest)

/-- The text behind white space, and whether it starts a line; `fresh` says so of the text in
front. -/
def dropSpace : (fresh : Bool) → List Char → Bool × List Char
  | fresh, [] => (fresh, [])
  | fresh, c :: s => if Text.isSpace c then dropSpace (c == '\n') s else (fresh, c :: s)

/-- A document that is being read. -/
structure Building where
  /-- The settings in front of all headers. -/
  general : Fields Value
  /-- The settings of each section. -/
  sections : Fields (Fields Value)
  /-- The open section. -/
  place : Option String
  /-- The name whose value is still to come; it is empty if there is none. -/
  name : String

namespace Building

/-- Nothing. -/
def start : Building := ⟨[], [], none, ""⟩

/-- Open a section; one of the same name is given up. -/
def openSection (b : Building) (header : String) : Building :=
  { b with sections := b.sections.put header [], place := some header }

/-- Set the name that has been read. -/
def assign (b : Building) (text : String) : Building :=
  match b.place with
  | none => { b with general := b.general.put b.name (.string text), name := "" }
  | some header =>
    let settings := (b.sections.value? header).getD []
    { b with sections := b.sections.put header (settings.put b.name (.string text)), name := "" }

/-- The table of all settings. -/
def toValue (b : Building) : Value :=
  .object (b.general.overlay (b.sections.map fun (header, settings) => (header, .object settings)))

end Building

/-- Read the parts of a document up to its end; `fuel` bounds their number. -/
def readWithin? : (fuel : Nat) → (fresh : Bool) → Building → List Char → Option Building
  | 0, _, _, _ => none
  | fuel + 1, fresh, b, s =>
    match dropSpace fresh s with
    | (_, []) => some b
    | (fresh, c :: s) =>
      if c = ';' ∨ c = '#' then
        if fresh then readWithin? fuel true b ((s.dropWhile (· != '\n')).drop 1) else none
      else if c = '[' then do
        let (header, rest) ← textUntil? (· = ']') false s
        readWithin? fuel false (b.openSection (String.ofList (Text.trimSpace header))) (rest.drop 1)
      else if c = '=' ∨ c = ':' then do
        if b.name.isEmpty then none
        let (text, rest) ← value? s
        readWithin? fuel false (b.assign text) rest
      else do
        let (name, rest) ← textUntil? (fun c => c = '=' ∨ c = ':') false (c :: s)
        readWithin? fuel false { b with name := String.ofList (Text.trimSpace name) } rest

/-- The table that a document describes. -/
def read? (text : String) : Option Value :=
  (readWithin? (text.length + 1) true .start text.toList).map Building.toValue

end Promptbook.Ini
