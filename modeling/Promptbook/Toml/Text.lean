import Promptbook.Data.Radix

/-!
# Texts and Keys of TOML

The readers for blanks, comments, line ends, quoted texts and keys. Every reader takes what it can
from the start of a text and gives the rest; none of them gives more than it was given.
-/

namespace Promptbook.Toml

/-- A space or a tab. -/
def isBlank (c : Char) : Bool :=
  c == ' ' || c == '\t'

/-- A character that may stand in comments and in quoted texts: a tab, or no control character. -/
def isPlain (c : Char) : Bool :=
  c == '\t' || (32 ≤ c.toNat && c.toNat != 127)

/-- The text behind a line end. -/
def lineEnd? : List Char → Option (List Char)
  | '\n' :: rest => some rest
  | '\r' :: '\n' :: rest => some rest
  | _ => none

/-- The text behind blanks. -/
def dropBlanks (s : List Char) : List Char :=
  s.dropWhile isBlank

/-- The text behind blanks and a comment. -/
def dropComment (s : List Char) : List Char :=
  match dropBlanks s with
  | '#' :: rest => rest.dropWhile isPlain
  | rest => rest

/-- The line end that starts with a character. -/
def lineEndFrom (c : Char) : List Char :=
  if c = '\r' then ['\r', '\n'] else ['\n']

theorem length_lineEnd? {s rest : List Char} (h : lineEnd? s = some rest) :
    rest.length < s.length := by
  unfold lineEnd? at h
  split at h
  · cases h; simp
  · cases h; simp only [List.length_cons]; omega
  · cases h

theorem length_dropBlanks (s : List Char) : (dropBlanks s).length ≤ s.length :=
  (List.dropWhile_suffix _).length_le

theorem length_dropComment (s : List Char) : (dropComment s).length ≤ s.length := by
  have h := length_dropBlanks s
  unfold dropComment
  split
  · rename_i rest hs
    have := (List.dropWhile_suffix (l := rest) isPlain).length_le
    rw [hs] at h
    simp only [List.length_cons] at h
    omega
  · exact h

/-- The text behind blanks, comments and line ends. -/
def dropLines (s : List Char) : List Char :=
  match _end : lineEnd? (dropComment s) with
  | some rest => dropLines rest
  | none => dropComment s
termination_by s.length
decreasing_by
  have := length_lineEnd? _end
  have := length_dropComment s
  omega

/-- The character that so many digits to base sixteen stand for. -/
def codePoint? (digits : Nat) (s : List Char) : Option (Char × List Char) :=
  match Radix.read? 16 (s.take digits) with
  | some n =>
    if digits ≤ s.length ∧ n.isValidChar then some (Char.ofNat n, s.drop digits) else none
  | none => none

/-- The character that an escape stands for, read behind its backslash. -/
def escape? : List Char → Option (Char × List Char)
  | 'b' :: s => some ('\x08', s)
  | 'e' :: s => some ('\x1b', s)
  | 't' :: s => some ('\t', s)
  | 'n' :: s => some ('\n', s)
  | 'f' :: s => some ('\x0c', s)
  | 'r' :: s => some ('\r', s)
  | '"' :: s => some ('"', s)
  | '\\' :: s => some ('\\', s)
  | 'x' :: s => codePoint? 2 s
  | 'u' :: s => codePoint? 4 s
  | 'U' :: s => codePoint? 8 s
  | _ => none

theorem length_codePoint? {digits : Nat} {s rest : List Char} {c : Char}
    (h : codePoint? digits s = some (c, rest)) : rest.length ≤ s.length := by
  unfold codePoint? at h
  split at h
  · split at h
    · cases h; simp
    · cases h
  · cases h

theorem length_escape? {s rest : List Char} {c : Char} (h : escape? s = some (c, rest)) :
    rest.length < s.length := by
  unfold escape? at h
  split at h
  case h_9 | h_10 | h_11 =>
    have := length_codePoint? h
    simp only [List.length_cons]
    omega
  case h_12 => cases h
  all_goals cases h; simp

/-- The rest of a text between double quotes on one line. -/
def basicText? (s : List Char) : Option (List Char × List Char) :=
  match s with
  | [] => none
  | '"' :: rest => some ([], rest)
  | '\\' :: rest =>
    match _escape : escape? rest with
    | some (c, rest) => (basicText? rest).map fun (text, rest) => (c :: text, rest)
    | none => none
  | c :: rest =>
    if isPlain c then (basicText? rest).map fun (text, rest) => (c :: text, rest) else none
termination_by s.length
decreasing_by
  · have := length_escape? _escape
    simp only [List.length_cons]
    omega
  · simp

/-- The rest of a text between single quotes on one line. -/
def literalText? : List Char → Option (List Char × List Char)
  | [] => none
  | '\'' :: rest => some ([], rest)
  | c :: rest =>
    if isPlain c then (literalText? rest).map fun (text, rest) => (c :: text, rest) else none

/-- The quotes that a run of quotes in a text on several lines adds to the text, and whether the
run ends the text. Up to two quotes may stand in front of the closing three. -/
def closeQuotes (quotes : Nat) : Nat × Bool :=
  if quotes < 3 then (quotes, false) else (min quotes 5 - 3, true)

/-- The text behind a backslash that continues a line: all white space and line ends are skipped. -/
def continuation? (s : List Char) : Option (List Char) :=
  (lineEnd? (dropBlanks s)).map fun rest =>
    rest.dropWhile fun c => isBlank c || c == '\n' || c == '\r'

theorem length_continuation? {s rest : List Char} (h : continuation? s = some rest) :
    rest.length < s.length := by
  simp only [continuation?, Option.map_eq_some_iff] at h
  obtain ⟨tail, ht, rfl⟩ := h
  have := length_lineEnd? ht
  have := length_dropBlanks s
  have := (List.dropWhile_suffix (l := tail)
    fun c => isBlank c || c == '\n' || c == '\r').length_le
  omega

/-- The rest of a text between triple quotes; `escapes` says whether a backslash escapes. -/
def longText? (quote : Char) (escapes : Bool) (s : List Char) : Option (List Char × List Char) :=
  match s with
  | [] => none
  | c :: rest =>
    if c = quote then
      let more := rest.takeWhile (· = quote)
      let (kept, closes) := closeQuotes (more.length + 1)
      if closes then some (List.replicate kept quote, rest.drop (kept + 2))
      else
        (longText? quote escapes (rest.drop more.length)).map fun (text, rest) =>
          (List.replicate kept quote ++ text, rest)
    else if escapes ∧ c = '\\' then
      match _continued : continuation? rest with
      | some rest => longText? quote escapes rest
      | none =>
        match _escape : escape? rest with
        | some (d, rest) => (longText? quote escapes rest).map fun (text, rest) => (d :: text, rest)
        | none => none
    else
      match _end : lineEnd? (c :: rest) with
      | some rest =>
        (longText? quote escapes rest).map fun (text, rest) =>
          (lineEndFrom c ++ text, rest)
      | none =>
        if isPlain c then
          (longText? quote escapes rest).map fun (text, rest) => (c :: text, rest)
        else none
termination_by s.length
decreasing_by
  · simp only [List.length_cons, List.length_drop]
    omega
  · have := length_continuation? _continued
    simp only [List.length_cons]
    omega
  · have := length_escape? _escape
    simp only [List.length_cons]
    omega
  · have := length_lineEnd? _end
    simpa using this
  · simp

/-- The text behind the line end that may follow the opening triple quotes. -/
def dropFirstLineEnd (s : List Char) : List Char :=
  (lineEnd? s).getD s

/-- Read a quoted text of any form. -/
def text? : List Char → Option (String × List Char)
  | '"' :: '"' :: '"' :: s =>
    (longText? '"' true (dropFirstLineEnd s)).map fun (t, rest) => (String.ofList t, rest)
  | '\'' :: '\'' :: '\'' :: s =>
    (longText? '\'' false (dropFirstLineEnd s)).map fun (t, rest) => (String.ofList t, rest)
  | '"' :: s => (basicText? s).map fun (t, rest) => (String.ofList t, rest)
  | '\'' :: s => (literalText? s).map fun (t, rest) => (String.ofList t, rest)
  | _ => none

/-- A character of a name without quotes. -/
def isBareKeyChar (c : Char) : Bool :=
  c.isAlphanum || c == '_' || c == '-'

/-- Read a name. -/
def simpleKey? : List Char → Option (String × List Char)
  | '"' :: s => (basicText? s).map fun (t, rest) => (String.ofList t, rest)
  | '\'' :: s => (literalText? s).map fun (t, rest) => (String.ofList t, rest)
  | s =>
    let name := s.takeWhile isBareKeyChar
    if name.isEmpty then none else some (String.ofList name, s.dropWhile isBareKeyChar)

/-- Read names with points between them; `fuel` bounds their number. -/
def keyWithin? : (fuel : Nat) → List Char → Option (List String × List Char)
  | 0, _ => none
  | fuel + 1, s => do
    let (name, rest) ← simpleKey? (dropBlanks s)
    match dropBlanks rest with
    | '.' :: rest =>
      let (names, rest) ← keyWithin? fuel rest
      return (name :: names, rest)
    | rest => return ([name], rest)

/-- Read names with points between them. -/
def key? (s : List Char) : Option (List String × List Char) :=
  keyWithin? (s.length + 1) s

end Promptbook.Toml
