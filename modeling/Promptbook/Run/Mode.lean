import Promptbook.Text.LetterCase

/-!
# Ways of Running

Whether a run generates text, and how it reports the text.
-/

namespace Promptbook

/-- Whether a run calls the providers of generated text. -/
inductive RunMode where
  /-- It makes its text up. -/
  | simulation
  /-- It calls the providers. -/
  | execution
  deriving DecidableEq, Inhabited

/-- How a run reports generated text. -/
inductive Delivery where
  /-- Piece by piece. -/
  | stream
  /-- As a whole. -/
  | blocking
  deriving DecidableEq, Inhabited

namespace RunMode

/-- The spelling of a mode. -/
def name : RunMode → String
  | simulation => "simulation"
  | execution => "execution"

/-- The mode with a name, in any letter case. -/
def read? (s : String) : Option RunMode :=
  [simulation, execution].find? fun mode => Text.equalIgnoringAsciiCase mode.name s

/-- A mode is read back from its spelling. -/
@[simp] theorem read?_name (mode : RunMode) : read? mode.name = some mode := by
  cases mode <;> decide

end RunMode

namespace Delivery

/-- The spelling of a delivery. -/
def name : Delivery → String
  | stream => "stream"
  | blocking => "blocking"

/-- The delivery with a name, in any letter case. -/
def read? (s : String) : Option Delivery :=
  [stream, blocking].find? fun delivery => Text.equalIgnoringAsciiCase delivery.name s

/-- A delivery is read back from its spelling. -/
@[simp] theorem read?_name (delivery : Delivery) : read? delivery.name = some delivery := by
  cases delivery <;> decide

end Delivery

end Promptbook
