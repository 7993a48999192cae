/-!
# Faults of Templates

Why a template cannot be read, and why one that has been read cannot be rendered.
-/

namespace Promptbook.Template

/-- Why a template cannot be read. -/
inductive Misreading where
  /-- Something stands where no text, output or tag can be read. -/
  | invalidMarkup
  /-- A tag that is not known. -/
  | unknownTag (name : String)
  /-- A filter that is not known. -/
  | unknownFilter (name : String)
  /-- A filter with too few or too many arguments, or with a named one. -/
  | wrongArguments (filter : String)
  /-- A tag whose content does not have the form of this tag. -/
  | malformedTag (name : String)
  /-- A block without its end. -/
  | unclosed (name : String)
  deriving DecidableEq, Inhabited

/-- The description of what cannot be read. -/
def Misreading.message : Misreading → String
  | invalidMarkup => "Invalid markup"
  | unknownTag name => "Unknown tag: " ++ name
  | unknownFilter name => "Unknown filter: " ++ name
  | wrongArguments filter => "Wrong arguments for filter: " ++ filter
  | malformedTag name => "Malformed tag: " ++ name
  | unclosed name => "Unclosed block: " ++ name

/-- Why a template cannot be rendered. -/
inductive Fault where
  /-- A variable without a value. -/
  | unknownVariable (name : String)
  /-- A part that a value does not have. -/
  | unknownIndex (name : String)
  /-- An index that is not a scalar. -/
  | invalidIndex
  /-- An operand of a kind that is not expected there. -/
  | unexpected (expected : String)
  /-- A division by zero. -/
  | divisionByZero
  /-- Text that is not valid after decoding. -/
  | invalidText
  /-- A pattern for moments that breaks off. -/
  | invalidPattern
  /-- A whole number that does not fit templates. -/
  | numberTooLarge
  /-- A template that another one asks for, when there are no others. -/
  | unknownTemplate (name : String)
  deriving DecidableEq, Inhabited

/-- The description of what cannot be rendered. -/
def Fault.message : Fault → String
  | unknownVariable name => "Unknown variable: " ++ name
  | unknownIndex name => "Unknown index: " ++ name
  | invalidIndex => "Invalid index"
  | unexpected expected => "Unexpected value, expected " ++ expected
  | divisionByZero => "Can't divide by zero"
  | invalidText => "Malformed text"
  | invalidPattern => "Malformed date pattern"
  | numberTooLarge => "Number too large"
  | unknownTemplate name => "Unknown partial template: " ++ name

end Promptbook.Template
