import Promptbook.Text.Letter
import Promptbook.Text.Table.Unseen

/-!
# Quoted Texts

The form of a text between quotes in which every character can be seen: what would end the text,
control characters, blanks other than the space, marks without a base and code points without a
character are written as escapes.
-/

namespace Promptbook.Text

/-- Whether a character cannot be seen by itself. -/
def isUnseen (c : Char) : Bool :=
  c.toNat < 32 || c.toNat == 127 || (128 ≤ c.toNat && inRanges Table.unseen c.toNat)

/-- The number of a character, to base sixteen. -/
def codePointText (c : Char) : List Char :=
  ['\\', 'u', '\x7b'] ++ Nat.toDigits 16 c.toNat ++ ['\x7d']

/-- The form of a character in a quoted text. -/
def quotedChar (c : Char) : List Char :=
  match c with
  | '"' => ['\\', '"']
  | '\\' => ['\\', '\\']
  | '\n' => ['\\', 'n']
  | '\r' => ['\\', 'r']
  | '\t' => ['\\', 't']
  | '\x00' => ['\\', '0']
  | c => if isUnseen c then codePointText c else [c]

/-- The form of a text between quotes. -/
def quoted (s : String) : String :=
  String.ofList ('"' :: s.toList.flatMap quotedChar ++ ['"'])

/-- Texts between quotes, in brackets. -/
def quotedList (texts : List String) : String :=
  "[" ++ ", ".intercalate (texts.map quoted) ++ "]"

end Promptbook.Text
