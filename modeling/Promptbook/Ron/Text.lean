import Promptbook.Data.Radix
import Promptbook.Text.Letter

/-!
# Texts and Names of RON

The readers for white space, comments, names and quoted texts. Every reader takes what it can from
the start of a text and gives the rest.
-/

namespace Promptbook.Ron

/-- White space between words. -/
def isBlank (c : Char) : Bool :=
  (9 ≤ c.toNat && c.toNat ≤ 13) || c == ' ' || c == '\x85' || c == '\u200e' || c == '\u200f'
    || c == '\u2028' || c == '\u2029'

/-- The text behind a comment between marks, inside of which `depth` others are open. -/
def dropBlock? : (depth : Nat) → List Char → Option (List Char)
  | _, [] => none
  | 0, '*' :: '/' :: s => some s
  | depth + 1, '*' :: '/' :: s => dropBlock? depth s
  | depth, '/' :: '*' :: s => dropBlock? (depth + 1) s
  | depth, _ :: s => dropBlock? depth s

/-- The text behind white space and comments; `fuel` bounds the number of comments. -/
def dropGapWithin? : (fuel : Nat) → List Char → Option (List Char)
  | 0, _ => none
  | fuel + 1, s =>
    match s.dropWhile isBlank with
    | '/' :: '/' :: rest => dropGapWithin? fuel (rest.dropWhile (· != '\n'))
    | '/' :: '*' :: rest => (dropBlock? 0 rest).bind (dropGapWithin? fuel)
    | '/' :: _ => none
    | rest => some rest

/-- The text behind white space and comments, unless a comment is not closed. -/
def dropGap? (s : List Char) : Option (List Char) :=
  dropGapWithin? (s.length + 1) s

/-- Read a comma with the gaps around it, if there is one; the answer says so. -/
def comma? (s : List Char) : Option (Bool × List Char) := do
  match ← dropGap? s with
  | ',' :: rest => return (true, ← dropGap? rest)
  | rest => return (false, rest)

/-- A character that can start a name. -/
def startsName (c : Char) : Bool :=
  c == '_' || Text.isLetter c

/-- A character that can continue a name. -/
def continuesName (c : Char) : Bool :=
  Text.isLetter c || Text.isMark c

/-- A character of a name behind the mark for unusual names. -/
def isRawNameChar (c : Char) : Bool :=
  continuesName c || c == '.' || c == '+' || c == '-'

/-- Whether a letter at the start of a text belongs to a quoted text. -/
def startsQuoted (s : List Char) : Bool :=
  ["b\"", "b'", "br#", "br\"", "r\"", "r#", "r##"].any fun start => start.toList.isPrefixOf s

/-- Read a name without a mark. -/
def word? (s : List Char) : Option (String × List Char) :=
  if startsQuoted s || !(s.head?.any startsName) then none
  else some (String.ofList (s.takeWhile continuesName), s.dropWhile continuesName)

/-- Read a name behind the mark for unusual names. -/
def rawName? : List Char → Option (String × List Char)
  | 'r' :: '#' :: s =>
    let name := s.takeWhile isRawNameChar
    if name.isEmpty then none else some (String.ofList name, s.dropWhile isRawNameChar)
  | _ => none

/-- Read a name. -/
def name? (s : List Char) : Option (String × List Char) :=
  (word? s).or (rawName? s)

/-- The character with a code, if there is one. -/
def charOf? (code : Nat) : Option Char :=
  if code.isValidChar then some (Char.ofNat code) else none

/-- The character that an escape stands for, read behind its backslash. -/
def escape? : List Char → Option (Char × List Char)
  | '\'' :: s => some ('\'', s)
  | '"' :: s => some ('"', s)
  | '\\' :: s => some ('\\', s)
  | 'n' :: s => some ('\n', s)
  | 'r' :: s => some ('\r', s)
  | 't' :: s => some ('\t', s)
  | '0' :: s => some ('\x00', s)
  | 'x' :: d₁ :: d₂ :: s => ((Radix.read? 16 [d₁, d₂]).bind charOf?).map fun c => (c, s)
  | 'u' :: '\x7b' :: s =>
    let digits := s.takeWhile (· != '\x7d')
    if digits.length ≤ 6 then
      ((Radix.read? 16 digits).bind charOf?).map fun c => (c, s.drop (digits.length + 1))
    else none
  | _ => none

theorem length_escape? {s rest : List Char} {c : Char} (h : escape? s = some (c, rest)) :
    rest.length < s.length := by
  unfold escape? at h
  split at h
  case h_8 =>
    simp only [Option.map_eq_some_iff, Prod.mk.injEq] at h
    obtain ⟨_, _, _, rfl⟩ := h
    simp only [List.length_cons]
    omega
  case h_9 =>
    dsimp only at h
    split at h
    · simp only [Option.map_eq_some_iff, Prod.mk.injEq] at h
      obtain ⟨_, _, _, rfl⟩ := h
      simp only [List.length_cons, List.length_drop]
      omega
    · cases h
  case h_10 => cases h
  all_goals cases h; simp

/-- The rest of a text between double quotes. -/
def quotedText? (s : List Char) : Option (List Char × List Char) :=
  match s with
  | [] => none
  | '"' :: rest => some ([], rest)
  | '\\' :: rest =>
    match _escape : escape? rest with
    | some (c, rest) => (quotedText? rest).map fun (text, rest) => (c :: text, rest)
    | none => none
  | c :: rest => (quotedText? rest).map fun (text, rest) => (c :: text, rest)
termination_by s.length
decreasing_by
  · have := length_escape? _escape
    simp only [List.length_cons]
    omega
  · simp

/-- The rest of a text without escapes, which ends with a quote and so many number signs. -/
def rawText? (signs : Nat) : List Char → Option (List Char × List Char)
  | [] => none
  | c :: s =>
    if c = '"' ∧ s.take signs = List.replicate signs '#' then some ([], s.drop signs)
    else (rawText? signs s).map fun (text, rest) => (c :: text, rest)

/-- Read a text in quotes of any form; a single character may stand between single quotes. -/
def text? : List Char → Option (String × List Char)
  | '"' :: s => (quotedText? s).map fun (text, rest) => (String.ofList text, rest)
  | 'r' :: s =>
    match s.dropWhile (· == '#') with
    | '"' :: rest =>
      (rawText? (s.takeWhile (· == '#')).length rest).map fun (text, rest) =>
        (String.ofList text, rest)
    | _ => none
  | '\'' :: '\\' :: s =>
    match escape? s with
    | some (c, '\'' :: rest) => some (String.singleton c, rest)
    | _ => none
  | '\'' :: c :: '\'' :: s => some (String.singleton c, s)
  | _ => none

end Promptbook.Ron
