import Promptbook.Text.Search
import Promptbook.Text.Space

/-!
# Hooks

Two directives that the caller may define stand in every body without being written there: one
before the text and one after it. A body that calls such a directive itself is left as it is.
-/

namespace Promptbook

/-- A directive that is called in every body. -/
structure Hook where
  /-- The name of the directive. -/
  name : String
  /-- Whether a call in any letter case counts as a call of it. -/
  anyCase : Bool
  deriving DecidableEq, Inhabited

namespace Hook

/-- The directive before the text of a body. -/
def leading : Hook := ⟨"inputMock", true⟩

/-- The directive after the text of a body. -/
def trailing : Hook := ⟨"mock", false⟩

/-- A letter without its case. The sign for kelvin counts as a letter k. -/
def foldLetter (c : Char) : Char :=
  if c == '\u212a' then 'k' else c.toLower

/-- Whether the character `d` of a text counts as the character `c` of the name. -/
def agrees (hook : Hook) (c d : Char) : Bool :=
  if hook.anyCase then foldLetter c == foldLetter d else c == d

/-- What follows the name of `hook` at the start of a text. -/
def afterName? (hook : Hook) : (name s : List Char) → Option (List Char)
  | [], s => some s
  | _ :: _, [] => none
  | c :: name, d :: s => if hook.agrees c d then hook.afterName? name s else none

/-- Whether a tag closes or a word ends at the start of a text. -/
def endsName : List Char → Bool
  | '%' :: '\x7d' :: _ => true
  | '-' :: '%' :: '\x7d' :: _ => true
  | c :: _ => Text.isSpace c
  | [] => false

/-- The text behind a hyphen. -/
def dropHyphen : List Char → List Char
  | '-' :: s => s
  | s => s

/-- Whether a call of `hook` starts at the start of a text. -/
def startsCall (hook : Hook) : List Char → Bool
  | '\x7b' :: '%' :: s =>
    match hook.afterName? hook.name.toList (Text.dropSpace (dropHyphen s)) with
    | some rest => endsName rest
    | none => false
  | _ => false

/-- Whether `hook` is called somewhere in a text. -/
def isCalled (hook : Hook) : List Char → Bool
  | [] => false
  | c :: s => hook.startsCall (c :: s) || hook.isCalled s

/-- A call of `hook`. -/
def call (hook : Hook) : String :=
  "\x7b% " ++ hook.name ++ " %\x7d"

/-- The `body` with calls of the hooks that the caller defines; `defined` says which these are. -/
def insertCalls (defined : String → Bool) (body : String) : String :=
  let body :=
    if defined leading.name && !leading.isCalled body.toList then
      leading.call ++ "\n" ++ body
    else body
  if defined trailing.name && !trailing.isCalled body.toList then
    body ++ "\n" ++ trailing.call
  else body

end Hook

end Promptbook
