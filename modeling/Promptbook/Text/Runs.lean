import Promptbook.Text.Space

/-!
# Runs of White Space and of Other Characters

A text is cut where white space begins or ends.
-/

namespace Promptbook.Text

/-- The longest pieces of a text that are all white space or have none. -/
def runs : List Char → List (List Char)
  | [] => []
  | c :: s =>
    match runs s with
    | (d :: run) :: rest =>
      if isSpace c = isSpace d then (c :: d :: run) :: rest else [c] :: (d :: run) :: rest
    | rest => [c] :: rest

/-- The runs make up the text. -/
theorem flatten_runs (s : List Char) : (runs s).flatten = s := by
  induction s with
  | nil => rfl
  | cons c s ih =>
    simp only [runs]
    split
    · rename_i d run rest h
      rw [h] at ih
      split <;> simp [← ih]
    · simp [ih]

end Promptbook.Text
