import Promptbook.Calendar.Pattern
import Promptbook.Template.Filter.Markup
import Promptbook.Template.Filter.Number
import Promptbook.Template.Filter.Sequence
import Promptbook.Template.Filter.Text

/-!
# The Filters of the Template Language
-/

namespace Promptbook.Template.Filter

/-- Write a moment after a pattern; what does not spell out a moment is kept, and so is everything
if the pattern is empty. -/
def date (input : Operand) (pattern : String) : Except Fault Operand :=
  match (input.scalar?.bind Value.string?).bind Calendar.Moment.read? with
  | none => .ok input
  | some m =>
    if pattern == "" then .ok input
    else match m.write? pattern with
      | some s => .ok (ofText s)
      | none => .error .invalidPattern

/-- All filters. -/
def standard : List Filter :=
  textFilters ++ numberFilters ++ sequenceFilters ++ markupFilters ++
    [⟨"date", 1, 0, fun input arguments => date input (textAt arguments 0)⟩]

/-- The filter of a name. -/
def find? (name : String) : Option Filter :=
  standard.find? fun filter => filter.name == name

end Promptbook.Template.Filter
