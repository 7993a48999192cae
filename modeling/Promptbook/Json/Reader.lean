import Promptbook.Json.Lexer

/-!
# Reading Values from Tokens

A machine that takes one token at a time and keeps the arrays and objects that are still open. The
outermost object keeps its members in the order of the text, repeated names included, so that a
caller can tell a repeated name; in every other object the last value of a name counts.
-/

namespace Promptbook.Json

/-- The choices in which the dialects of JSON differ, for the reader. -/
structure Dialect where
  /-- How many arrays and objects may be open at once, if that is limited. -/
  depthLimit : Option Nat
  /-- Whether a comma may stand before a closing bracket. -/
  trailingComma : Bool
  /-- Whether names may be written without quotes. -/
  bareNames : Bool
  /-- The values of bare words. -/
  wordValue : String → Option Value

/-- What a text denotes. -/
inductive Document where
  /-- A value that is not an object. -/
  | value (v : Value)
  /-- The members of an object, as the text lists them. -/
  | members (entries : List (String × Value))
  deriving DecidableEq

/-- The value of a document. -/
def Document.toValue : Document → Value
  | .value v => v
  | .members entries => .object (Fields.collect entries)

/-- An array or object that is still open; its parts are kept backwards. -/
inductive Frame where
  /-- An array with the items read so far. -/
  | array (items : List Value)
  /-- An object with the members read so far and the name of the one being read. -/
  | object (entries : List (String × Value)) (name : String)
  deriving DecidableEq

/-- What the reader waits for; `stack` holds what is open, the innermost first. -/
inductive Reading where
  /-- A value. -/
  | value (stack : List Frame)
  /-- An item of an array, or the end of an array that may end here. -/
  | item (items : List Value) (stack : List Frame)
  /-- A comma or the end of an array. -/
  | afterItem (items : List Value) (stack : List Frame)
  /-- A name in an object, or the end of an object that may end here. -/
  | member (entries : List (String × Value)) (stack : List Frame)
  /-- The colon behind a name. -/
  | colon (entries : List (String × Value)) (name : String) (stack : List Frame)
  /-- A comma or the end of an object. -/
  | afterMember (entries : List (String × Value)) (stack : List Frame)
  /-- The end of the text. -/
  | done (document : Document)
  deriving DecidableEq

namespace Reading

/-- Go on after `document` is complete: it is the whole text, or a part of the innermost open array
or object. -/
def complete (document : Document) : List Frame → Reading
  | [] => .done document
  | .array items :: stack => .afterItem (document.toValue :: items) stack
  | .object entries name :: stack => .afterMember ((name, document.toValue) :: entries) stack

/-- Whether one more array or object may be opened inside of `stack`. -/
def mayOpen (dialect : Dialect) (stack : List Frame) : Bool :=
  match dialect.depthLimit with
  | none => true
  | some limit => stack.length < limit

/-- Take the first token of a value inside of `stack`. -/
def begin (dialect : Dialect) (stack : List Frame) : Token → Option Reading
  | .openArray => if mayOpen dialect stack then some (.item [] stack) else none
  | .openObject => if mayOpen dialect stack then some (.member [] stack) else none
  | .text s => some (complete (.value (.string s)) stack)
  | .number v => some (complete (.value v) stack)
  | .word w => (dialect.wordValue w).map fun v => complete (.value v) stack
  | _ => none

/-- Take one token. -/
def step (dialect : Dialect) : Reading → Token → Option Reading
  | .value stack, token => begin dialect stack token
  | .item items stack, token =>
    if token = .closeArray then
      if items.isEmpty || dialect.trailingComma then
        some (complete (.value (.array items.reverse)) stack)
      else none
    else begin dialect (.array items :: stack) token
  | .afterItem items stack, token =>
    match token with
    | .comma => some (.item items stack)
    | .closeArray => some (complete (.value (.array items.reverse)) stack)
    | _ => none
  | .member entries stack, token =>
    match token with
    | .closeObject =>
      if entries.isEmpty || dialect.trailingComma then
        some (complete (.members entries.reverse) stack)
      else none
    | .text name => some (.colon entries name stack)
    | .word name | .name name =>
      if dialect.bareNames then some (.colon entries name stack) else none
    | _ => none
  | .colon entries name stack, token =>
    match token with
    | .colon => some (.value (.object entries name :: stack))
    | _ => none
  | .afterMember entries stack, token =>
    match token with
    | .comma => some (.member entries stack)
    | .closeObject => some (complete (.members entries.reverse) stack)
    | _ => none
  | .done _, _ => none

/-- Take a sequence of tokens. -/
def feed (dialect : Dialect) : Reading → List Token → Option Reading
  | reading, [] => some reading
  | reading, token :: rest =>
    match step dialect reading token with
    | some next => feed dialect next rest
    | none => none

/-- The document, if the text is complete. -/
def document? : Reading → Option Document
  | .done document => some document
  | _ => none

end Reading

/-- The document that `tokens` denote. -/
def Dialect.document? (dialect : Dialect) (tokens : List Token) : Option Document :=
  (Reading.feed dialect (.value []) tokens).bind Reading.document?

/-- The values of the words of strict JSON. -/
def wordValue? : String → Option Value
  | "null" => some .null
  | "true" => some (.bool true)
  | "false" => some (.bool false)
  | _ => none

/-- Strict JSON whose values nest at most `limit` deep. -/
def strict (limit : Option Nat) : Dialect := ⟨limit, false, false, wordValue?⟩

/-- How deep the arrays and objects of a JSON text may nest. -/
def maxDepth : Nat := 127

/-- The value that `text` denotes. -/
def read? (text : String) : Option Value :=
  (tokens? text.toList).bind fun tokens =>
    ((strict (some maxDepth)).document? tokens).map Document.toValue

/-- The value that `text` denotes, however deep it nests. -/
def readDeep? (text : String) : Option Value :=
  (tokens? text.toList).bind fun tokens => ((strict none).document? tokens).map Document.toValue

end Promptbook.Json
