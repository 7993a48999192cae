import Promptbook.Template.Fault
import Promptbook.Template.Operand

/-!
# Filters

A filter turns an operand into another one, with the help of arguments. How many arguments it may
have is known when the template is read; what they must be is decided when the filter is applied.
-/

namespace Promptbook.Template

/-- A filter. -/
structure Filter where
  /-- The name under which templates use it. -/
  name : String
  /-- How many arguments it needs. -/
  required : Nat
  /-- How many more arguments it may have. -/
  optional : Nat
  /-- What it makes of an operand, given its arguments. -/
  apply : Operand → List Operand → Except Fault Operand

namespace Filter

/-- Whether a filter may have so many arguments. -/
def takes (filter : Filter) (count : Nat) : Bool :=
  filter.required ≤ count && count ≤ filter.required + filter.optional

/-- The operand that is a text. -/
def ofText (s : String) : Operand :=
  .value (.string s)

/-- The operand that is a sequence. -/
def ofItems (items : List Value) : Operand :=
  .value (.array items)

/-- The text of an argument. -/
def textAt (arguments : List Operand) (i : Nat) : String :=
  (arguments[i]?.map Operand.text).getD ""

/-- The text of an argument, or `fallback` if it is not there. -/
def textAtOr (arguments : List Operand) (i : Nat) (fallback : String) : String :=
  (arguments[i]?.map Operand.text).getD fallback

/-- The whole number of an argument, or `fallback` if it is not there. -/
def wholeAtOr (arguments : List Operand) (i : Nat) (fallback : Int) : Except Fault Int :=
  match arguments[i]? with
  | none => .ok fallback
  | some operand => match operand.whole? with
    | some n => .ok n
    | none => .error (.unexpected "whole number")

/-- A count as a size of a text or sequence. A negative one is larger than every size. -/
def sizeOf (n : Int) : Nat :=
  if n < 0 then Whole.words else n.toNat

/-- The filter that turns a text into a text. -/
def onText (name : String) (f : String → String) : Filter :=
  ⟨name, 0, 0, fun input _ => .ok (ofText (f input.text))⟩

/-- The filter that turns a text into a text with the help of another text. -/
def onTextWith (name : String) (f : String → String → String) : Filter :=
  ⟨name, 1, 0, fun input arguments => .ok (ofText (f input.text (textAt arguments 0)))⟩

end Filter

end Promptbook.Template
