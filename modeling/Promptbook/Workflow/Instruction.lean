import Promptbook.Data.Record
import Promptbook.Text.LetterCase

/-!
# Instructions

What a step of a workflow does when its turn comes.
-/

namespace Promptbook

/-- What a step does. -/
inductive Instruction where
  /-- Generate text from the rendered prompt. -/
  | prompt
  /-- Decide how the workflow goes on. -/
  | after
  deriving DecidableEq, Inhabited

namespace Instruction

/-- The spelling of an instruction. -/
def name : Instruction → String
  | prompt => "PROMPT"
  | after => "AFTER"

/-- All instructions. -/
def all : List Instruction := [prompt, after]

/-- The instruction named `s`, in any letter case. -/
def read? (s : String) : Option Instruction :=
  all.find? fun i => Text.equalIgnoringAsciiCase i.name s

/-- An instruction as a value. -/
def toValue (i : Instruction) : Value :=
  .string i.name

/-- The instruction that `v` names, in its exact spelling. -/
def ofValue? (v : Value) : Option Instruction :=
  v.constant?.bind fun s => all.find? (·.name = s)

/-- An instruction is read back from its spelling. -/
@[simp] theorem read?_name (i : Instruction) : read? i.name = some i := by
  cases i <;> decide

/-- An instruction is read back from its value. -/
@[simp] theorem ofValue?_toValue (i : Instruction) : ofValue? i.toValue = some i := by
  cases i <;> decide

end Instruction

end Promptbook
