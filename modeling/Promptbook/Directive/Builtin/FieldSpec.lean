import Promptbook.Error
import Promptbook.Json.Relaxed
import Promptbook.Json.Writer

/-!
# Specifications of Fields

A field is specified by an object in relaxed JSON. Its quoted texts may span lines.
-/

namespace Promptbook.Builtin

/-- What the scan of a specification is inside of. -/
inductive SpecScan where
  /-- Neither a quoted text nor a comment. -/
  | code
  /-- A text in `quote`. -/
  | quoted (quote : Char)
  /-- A comment up to the end of the line. -/
  | lineComment
  /-- A comment up to its closing mark. -/
  | blockComment
  deriving DecidableEq

/-- Write every line feed inside a quoted text as an escape, starting in the given state. -/
def escapeNewlinesFrom : SpecScan → List Char → List Char
  | _, [] => []
  | .quoted quote, c :: s =>
    if c == '\n' then '\\' :: 'n' :: escapeNewlinesFrom (.quoted quote) s
    else if c == '\\' then
      match s with
      | [] => [c]
      | d :: s => c :: d :: escapeNewlinesFrom (.quoted quote) s
    else if c == quote then c :: escapeNewlinesFrom .code s
    else c :: escapeNewlinesFrom (.quoted quote) s
  | .lineComment, c :: s =>
    c :: escapeNewlinesFrom (if c == '\n' then .code else .lineComment) s
  | .blockComment, '*' :: '/' :: s => '*' :: '/' :: escapeNewlinesFrom .code s
  | .blockComment, c :: s => c :: escapeNewlinesFrom .blockComment s
  | .code, '/' :: '*' :: s => '/' :: '*' :: escapeNewlinesFrom .blockComment s
  | .code, '/' :: '/' :: s => '/' :: '/' :: escapeNewlinesFrom .lineComment s
  | .code, c :: s =>
    c :: escapeNewlinesFrom (if c == '"' || c == '\'' then .quoted c else .code) s

/-- Write every line feed inside a quoted text of `text` as an escape. -/
def escapeNewlines (text : String) : String :=
  String.ofList (escapeNewlinesFrom .code text.toList)

/-- The specification of a field. -/
structure FieldSpec where
  /-- The value without input. -/
  default : Option Value
  /-- The label. -/
  label : Option String
  /-- The values to choose from. -/
  options : Option (List Value)
  /-- The kind of input. -/
  kind : Option String
  deriving DecidableEq, Inhabited

namespace FieldSpec

/-- A member that must be a text or absent. -/
def text? : Value → Option (Option String)
  | .null => some none
  | .string s => some (some s)
  | _ => none

/-- A member that must be an array or absent. -/
def items? : Value → Option (Option (List Value))
  | .null => some none
  | .array items => some (some (Value.finiteItems items))
  | _ => none

/-- A member that may be any value; a number that is not finite is the absent value. -/
def any : Value → Option Value
  | .null => none
  | v => some v.finite

/-- The value of the member `name`, if it occurs once at most. -/
def single? (entries : List (String × Value)) (name : String) : Option Value :=
  match entries.filter (·.1 == name) with
  | [] => some .null
  | [entry] => some entry.2
  | _ => none

/-- The specification that the members of an object make; members with other names are ignored. -/
def ofMembers? (entries : List (String × Value)) : Option FieldSpec := do
  let default ← single? entries "default"
  let label ← text? (← single? entries "label")
  let options ← items? (← single? entries "options")
  let kind ← text? (← single? entries "type")
  return ⟨any default, label, options, kind⟩

/-- The specification that `text` spells. -/
def read? (text : String) : Option FieldSpec :=
  match Json.Relaxed.specification? (escapeNewlines text) with
  | some (.members entries) => ofMembers? entries
  | _ => none

/-- The specification in the argument `field` of the directive that declares fields. -/
def ofArgument (field : String) : Value → Except Error FieldSpec
  | .string text =>
    match read? text with
    | some spec => .ok spec
    | none => .error (.fieldSpec field "not an object literal of this form")
  | v =>
    .error (.fieldSpec field ("expected an object literal string, found " ++ Json.compact v))

/-- The kind of input that fits the options and the default of `spec`. -/
def detectedKind (spec : FieldSpec) : String :=
  if spec.options.any (!·.isEmpty) then "select"
  else match spec.default with
    | some (.int n) => if n != 0 then "number" else "text"
    | some (.double x) => if x != 0 then "number" else "text"
    | some (.string s) => if s.toList.contains '\n' then "textarea" else "text"
    | _ => "text"

/-- The texts to choose from. -/
def choices (spec : FieldSpec) : List String :=
  (spec.options.getD []).map Value.text

/-- The default as it is recorded: the declared one or the empty text, and in place of one that
counts as true the first choice, if there are choices. -/
def recordedDefault (spec : FieldSpec) : Value :=
  let declared := spec.default.getD (.string "")
  match declared.isTruthy, spec.choices.head? with
  | true, some first => .string first
  | _, _ => declared

/-- What is recorded about the field `key` with `spec`, at the position `order`. -/
def record (spec : FieldSpec) (key : String) (order : Nat) : Value :=
  .object [
    ("default", spec.recordedDefault),
    ("key", .string key),
    ("label", .string (spec.label.getD key)),
    ("options", .array (spec.choices.map .string)),
    ("order", .int order),
    ("type", .string (spec.kind.getD spec.detectedKind))]

/-- The value of a field with `spec`: the `input`, or else the default, or else the empty text. -/
def value (spec : FieldSpec) (input : Option Value) : Value :=
  ((input.bind Value.nonNull?).or (spec.default.bind Value.nonNull?)).getD (.string "")

end FieldSpec

end Promptbook.Builtin
