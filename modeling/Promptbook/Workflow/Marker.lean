import Promptbook.Text.Letter
import Promptbook.Text.Search
import Promptbook.Text.Space
import Promptbook.Workflow.Instruction

/-!
# Marker Lines

A line `--- INSTRUCTION label ---` opens a section of a workflow. The instruction is a whole word;
the label is the text behind it.
-/

namespace Promptbook

/-- What a marker line says. -/
structure Marker where
  /-- The instruction of the section. -/
  instruction : Instruction
  /-- The name of the section. -/
  label : String
  deriving DecidableEq, Inhabited

namespace Marker

/-- The dashes at both ends of a marker line. -/
def dashes : List Char := ['-', '-', '-']

/-- The text between the dashes at both ends of `line`, if both are there. -/
def middle? (line : List Char) : Option (List Char) :=
  (Text.restAfter? dashes line).bind fun rest =>
    (Text.restAfter? dashes rest.reverse).map List.reverse

/-- The first word of `s` and what follows it. A word that is the whole text gives up its last
character, for something must follow. -/
def splitWord (s : List Char) : List Char × List Char :=
  match s.dropWhile Text.isWord with
  | [] => (s.dropLast, s.drop (s.length - 1))
  | rest => (s.takeWhile Text.isWord, rest)

/-- The marker that `line` is, if it is one. -/
def read? (line : List Char) : Option Marker := do
  let (word, rest) := splitWord (Text.dropSpace (← middle? (Text.trimSpace line)))
  let instruction ← Instruction.read? (String.ofList word)
  return ⟨instruction, String.ofList (Text.trimSpace rest)⟩

/-- The marker `m` as a line. -/
def toLine (m : Marker) : List Char :=
  dashes ++ ' ' :: m.instruction.name.toList ++ ' ' :: m.label.toList ++ ' ' :: dashes

/-- The first word of `s` and what follows it make up `s`. -/
theorem splitWord_append (s : List Char) : (splitWord s).1 ++ (splitWord s).2 = s := by
  unfold splitWord
  split
  · simp [List.dropLast_eq_take]
  · exact List.takeWhile_append_dropWhile

end Marker

end Promptbook
