import Promptbook.Text.Letter
import Promptbook.Text.Table.Cased
import Promptbook.Text.Table.Lowercase
import Promptbook.Text.Table.Uppercase

/-!
# Letter Case

Lowercase and uppercase forms of characters and texts, after the full case mappings of Unicode. A
character may become several. The lowercase form of a text also knows the two small sigmas: a
capital sigma at the end of a word becomes the final one.
-/

namespace Promptbook.Text

/-- The image of a code point under a table of runs, if a run reaches it. -/
def mapByRuns (runs : Array (Nat × Nat × Nat × Int)) (n : Nat) : Option Char :=
  (runs.find? fun run => run.1 ≤ n && n ≤ run.2.1 && (n - run.1) % run.2.2.1 == 0).map
    fun run => Char.ofNat ((n : Int) + run.2.2.2).toNat

/-- The image of a code point under a table of lists, if the table has it. -/
def mapByLists (lists : Array (Nat × List Nat)) (n : Nat) : Option (List Char) :=
  (lists.find? fun entry => entry.1 == n).map fun entry => entry.2.map Char.ofNat

/-- The lowercase form of a character. -/
def lowerChar (c : Char) : List Char :=
  if c.toNat < 128 then [c.toLower]
  else match mapByRuns Table.lowercaseRuns c.toNat with
    | some d => [d]
    | none => (mapByLists Table.lowercaseLists c.toNat).getD [c]

/-- The uppercase form of a character. -/
def upperChar (c : Char) : List Char :=
  if c.toNat < 128 then [c.toUpper]
  else match mapByRuns Table.uppercaseRuns c.toNat with
    | some d => [d]
    | none => (mapByLists Table.uppercaseLists c.toNat).getD [c]

/-- A letter that has case. -/
def isCased (c : Char) : Bool :=
  inRanges Table.cased c.toNat

/-- A character that is passed over when looking for a letter that has case. -/
def isCaseIgnorable (c : Char) : Bool :=
  inRanges Table.caseIgnorable c.toNat

/-- Whether the next letter, passing over ignorable characters, has case. -/
def meetsCased (s : List Char) : Bool :=
  match s.dropWhile isCaseIgnorable with
  | [] => false
  | c :: _ => isCased c

/-- The lowercase form of a capital sigma between the text before it, read backwards, and the text
after it. -/
def lowerSigma (before after : List Char) : Char :=
  if meetsCased before && !meetsCased after then 'ς' else 'σ'

/-- The lowercase form of the rest of a text, given the text before it read backwards. -/
def lowercaseFrom (before : List Char) : List Char → List Char
  | [] => []
  | c :: rest =>
    (if c == 'Σ' then [lowerSigma before rest] else lowerChar c) ++ lowercaseFrom (c :: before) rest

/-- The lowercase form of a text. -/
def lowercase (s : String) : String :=
  String.ofList (lowercaseFrom [] s.toList)

/-- The uppercase form of a text. -/
def uppercase (s : String) : String :=
  String.ofList (s.toList.flatMap upperChar)

/-- The text with its first character in uppercase. -/
def capitalize (s : String) : String :=
  match s.toList with
  | [] => ""
  | c :: rest => String.ofList (upperChar c ++ rest)

/-- Texts that agree when ASCII letters are compared without case. -/
def equalIgnoringAsciiCase (s t : String) : Bool :=
  s.toList.map Char.toLower == t.toList.map Char.toLower

end Promptbook.Text
