import Promptbook.Decimal.Reader
import Promptbook.Directive.Call
import Promptbook.Json.Writer
import Promptbook.Text.Space

/-!
# Examples from a Corpus

Asks for the texts that are most similar to a query and shows them as numbered blocks.
-/

namespace Promptbook

/-- A source of example texts: at most `count` texts of a corpus that fit a query. -/
abbrev Retriever (ω : Type) :=
  (query : String) → (count : Nat) → (source : String) → StateM ω (Except Error (List String))

namespace Builtin

variable {ω : Type}

/-- How many examples are shown if nothing is said. -/
def defaultCount : Nat := 3

/-- The text in place of examples when there is no corpus. -/
def noCorpus : String := "<!-- examples: no corpus configured -->"

/-- The text in place of examples when none fits. -/
def noMatches : String := "<!-- examples: no matches for query -->"

/-- The count that a value states. -/
def countOf? : Value → Option Nat
  | .int n => if 0 ≤ n then some n.toNat else none
  | .string s => Decimal.readCount? (Text.trim s)
  | _ => none

/-- The example `text` with its `number`, between fences. -/
def block (number : Nat) (text : String) : String :=
  "Example " ++ toString number ++ ":\n```\n" ++ Text.trim text ++ "\n```"

/-- The examples in `texts` as numbered blocks with blank lines between them. -/
def blocks (texts : List String) : String :=
  "\n\n".intercalate ((texts.zipIdx 1).map fun (text, number) => block number text)

/-- The text of the argument `key`; a missing one has none. -/
def argumentText (arguments : Arguments) (key : String) : String :=
  ((arguments.value? key).map Value.text).getD ""

/-- Show examples from `retriever` that fit a query. -/
def examples (retriever : Option (Retriever ω)) : Directive ω := ⟨true, fun call => do
  let query := argumentText call.arguments "query"
  let source := argumentText call.arguments "source"
  let count := ((call.arguments.value? "count").bind countOf?).getD defaultCount
  match retriever with
  | none => return call.answer (some noCorpus)
  | some retrieve =>
    if Text.isBlank source.toList then return call.answer (some noCorpus)
    else
      match ← retrieve query count source with
      | .ok [] => return call.answer (some noMatches)
      | .ok texts => return call.answer (some (blocks texts))
      | .error (.corpusNotFound _) => return call.answer (some noCorpus)
      | .error e => return call.fail (.directiveFailed call.name e.message)⟩

end Builtin

end Promptbook
