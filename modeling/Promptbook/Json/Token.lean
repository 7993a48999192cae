import Promptbook.Data.Radix
import Promptbook.Data.Value
import Promptbook.Data.Whole

/-!
# Tokens of JSON Text

The words of JSON and of its relaxed dialect. Both lexers produce these tokens and one reader
consumes them.
-/

namespace Promptbook.Json

/-- A token. -/
inductive Token where
  /-- `[` -/
  | openArray
  /-- `]` -/
  | closeArray
  /-- An opening brace. -/
  | openObject
  /-- A closing brace. -/
  | closeObject
  /-- `,` -/
  | comma
  /-- `:` -/
  | colon
  /-- A quoted text, with its escapes resolved. -/
  | text (s : String)
  /-- A number, as the value that it denotes. -/
  | number (v : Value)
  /-- A bare word, such as `true`. -/
  | word (w : String)
  /-- A bare word that was written with escapes, which can only be a name. -/
  | name (s : String)
  deriving DecidableEq, Inhabited

/-- The token that a single punctuation character is. -/
def punctuation? : Char → Option Token
  | '[' => some .openArray
  | ']' => some .closeArray
  | '\x7b' => some .openObject
  | '\x7d' => some .closeObject
  | ',' => some .comma
  | ':' => some .colon
  | _ => none

/-- The number that hexadecimal digits denote, if there is one and all are digits. -/
def hexValue? (digits : List Char) : Option Nat :=
  Radix.read? 16 digits

/-- A code unit that announces a second one. -/
def isLeadUnit (n : Nat) : Bool :=
  0xD800 ≤ n && n < 0xDC00

/-- A code unit that completes a pair. -/
def isTrailUnit (n : Nat) : Bool :=
  0xDC00 ≤ n && n < 0xE000

/-- The character that a pair of code units denotes. -/
def pairedChar (lead trail : Nat) : Char :=
  Char.ofNat (0x10000 + (lead - 0xD800) * 0x400 + (trail - 0xDC00))

/-- The value of a whole number: an integer within the range of values, else the nearest double,
if that is finite. -/
def wholeNumber? (n : Int) (asDouble : Float) : Option Value :=
  if Whole.least ≤ n && n ≤ Whole.greatestCount then some (.int n)
  else if asDouble.isFinite then some (.double asDouble) else none

end Promptbook.Json
