import Promptbook.Data.Value
import Promptbook.Decimal.Layout

/-!
# Writing Values as JSON Text

The compact form has no blanks; the indented one puts every item and member on a line of its own.
-/

namespace Promptbook.Json

/-- A digit of a number to base sixteen, in lowercase. -/
def hexChar (n : Nat) : Char :=
  if n < 10 then Char.ofNat ('0'.toNat + n) else Char.ofNat ('a'.toNat + n - 10)

/-- The character `c` inside a quoted text: quotes, backslashes and control characters are
escaped. -/
def escapeChar (c : Char) : List Char :=
  if c == '"' then ['\\', '"']
  else if c == '\\' then ['\\', '\\']
  else if c == '\n' then ['\\', 'n']
  else if c == '\r' then ['\\', 'r']
  else if c == '\t' then ['\\', 't']
  else if c == '\x08' then ['\\', 'b']
  else if c == '\x0c' then ['\\', 'f']
  else if c.toNat < 32 then
    ['\\', 'u', '0', '0', hexChar (c.toNat / 16), hexChar (c.toNat % 16)]
  else [c]

/-- The text `s` in quotes. -/
def quote (s : String) : List Char :=
  '"' :: s.toList.flatMap escapeChar ++ ['"']

mutual

/-- A value as compact JSON text. -/
def compactChars : Value → List Char
  | .null => "null".toList
  | .bool true => "true".toList
  | .bool false => "false".toList
  | .int n => (toString n).toList
  | .double x => (Decimal.jsonLayout.write x).toList
  | .string s => quote s
  | .array items => '[' :: compactItems items ++ [']']
  | .object fields => '\x7b' :: compactMembers fields ++ ['\x7d']

/-- The items of an array, with commas between them. -/
def compactItems : List Value → List Char
  | [] => []
  | [v] => compactChars v
  | v :: rest => compactChars v ++ ',' :: compactItems rest

/-- The members of an object, with commas between them. -/
def compactMembers : List (String × Value) → List Char
  | [] => []
  | [(name, v)] => quote name ++ ':' :: compactChars v
  | (name, v) :: rest => quote name ++ ':' :: compactChars v ++ ',' :: compactMembers rest

end

/-- The value `v` as compact JSON text. -/
def compact (v : Value) : String :=
  String.ofList (compactChars v)

/-- A line break and the indentation of a depth. -/
def lineBreak (depth : Nat) : List Char :=
  '\n' :: List.replicate (2 * depth) ' '

mutual

/-- A value as JSON text with two blanks of indentation for each level, `depth` levels deep. Arrays
and objects without parts stay on one line. -/
def indentedChars (depth : Nat) : Value → List Char
  | .array [] => ['[', ']']
  | .object [] => ['\x7b', '\x7d']
  | .array items => '[' :: indentedItems (depth + 1) items ++ lineBreak depth ++ [']']
  | .object fields => '\x7b' :: indentedMembers (depth + 1) fields ++ lineBreak depth ++ ['\x7d']
  | .null => compactChars .null
  | .bool b => compactChars (.bool b)
  | .int n => compactChars (.int n)
  | .double x => compactChars (.double x)
  | .string s => compactChars (.string s)

/-- The items of an array, each on its line. -/
def indentedItems (depth : Nat) : List Value → List Char
  | [] => []
  | [v] => lineBreak depth ++ indentedChars depth v
  | v :: rest => lineBreak depth ++ indentedChars depth v ++ ',' :: indentedItems depth rest

/-- The members of an object, each on its line. -/
def indentedMembers (depth : Nat) : List (String × Value) → List Char
  | [] => []
  | [(name, v)] => lineBreak depth ++ quote name ++ ':' :: ' ' :: indentedChars depth v
  | (name, v) :: rest =>
    lineBreak depth ++ quote name ++ ':' :: ' ' :: indentedChars depth v
      ++ ',' :: indentedMembers depth rest

end

/-- The value `v` as JSON text with two blanks of indentation for each level. -/
def indented (v : Value) : String :=
  String.ofList (indentedChars 0 v)

end Promptbook.Json

namespace Promptbook.Value

/-- The text of a value where a text is wanted: a string is its own text, the absent value has the
empty text, everything else is written as compact JSON. -/
def text : Value → String
  | .null => ""
  | .string s => s
  | v => Json.compact v

end Promptbook.Value
