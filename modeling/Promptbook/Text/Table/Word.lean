/-!
# Word Characters

The code points that belong to a word without being letters, letter numbers, combining marks, digits
or connectors: enclosing marks, letters in circles and squares, and the two join controls.
-/

namespace Promptbook.Text.Table

/-- Ranges of the other word characters, both ends included. -/
def wordOnly : Array (Nat × Nat) := #[
  (1160, 1161), (6846, 6846), (8204, 8205), (8413, 8416), (8418, 8420), (9398, 9449),
  (42608, 42610), (127280, 127305), (127312, 127337), (127344, 127369)]

end Promptbook.Text.Table
