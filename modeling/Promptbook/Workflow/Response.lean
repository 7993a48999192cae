import Promptbook.Data.Record
import Promptbook.Data.Whole

/-!
# Responses

What a provider of generated text answers, and the result that a step makes of it.
-/

namespace Promptbook

/-- How much text a generation took and gave. -/
structure Usage where
  /-- The units of text in the prompt. -/
  promptTokens : Nat
  /-- The units of text that were generated. -/
  completionTokens : Nat
  /-- All units of text. -/
  totalTokens : Nat
  deriving DecidableEq, Inhabited

namespace Usage

/-- No text at all. -/
def zero : Usage := ⟨0, 0, 0⟩

/-- Counts as a value. -/
def toValue (usage : Usage) : Value :=
  .object [("completion_tokens", .int usage.completionTokens),
    ("prompt_tokens", .int usage.promptTokens), ("total_tokens", .int usage.totalTokens)]

/-- The counts that a value describes. -/
def ofValue? (v : Value) : Option Usage := do
  match ← v.members? ["prompt_tokens", "completion_tokens", "total_tokens"] with
  | [some prompt, some completion, some total] =>
    return ⟨← prompt.below? Whole.words, ← completion.below? Whole.words,
      ← total.below? Whole.words⟩
  | _ => none

end Usage

/-- The answer of a provider. -/
structure Response where
  /-- The name of the provider. -/
  provider : String
  /-- The generated text. -/
  text : String
  /-- How much text it took. -/
  usage : Usage
  /-- The status of the answer. -/
  status : Nat
  deriving DecidableEq, Inhabited

namespace Response

/-- The status of a good answer. -/
def good : Nat := 200

/-- The bound of the status. -/
def statusBound : Nat := 0x10000

/-- A good answer of `provider` with nothing but `text`. -/
def ofText (provider text : String) : Response :=
  ⟨provider, text, .zero, good⟩

/-- The answer with `text` in place of a generation that does not take place. -/
def simulated (text : String) : Response :=
  ofText "simulation" text

/-- A response as a value. -/
def toValue (r : Response) : Value :=
  .object [("provider", .string r.provider), ("status", .int r.status), ("text", .string r.text),
    ("usage", r.usage.toValue)]

/-- The response that a value describes. -/
def ofValue? (v : Value) : Option Response := do
  match ← v.members? ["provider", "text", "usage", "status"] with
  | [some provider, some text, some usage, some status] =>
    return ⟨← provider.string?, ← text.string?, ← Usage.ofValue? usage, ← status.below? statusBound⟩
  | _ => none

end Response

/-- The form of a result. -/
inductive ResultFormat where
  /-- Plain text. -/
  | text
  /-- A value. -/
  | json
  deriving DecidableEq, Inhabited

namespace ResultFormat

/-- The spelling of a form. -/
def name : ResultFormat → String
  | text => "text"
  | json => "json"

/-- The form that a value names. -/
def ofValue? (v : Value) : Option ResultFormat :=
  v.constant?.bind fun s => [text, json].find? (·.name = s)

end ResultFormat

/-- The result of a step: the generated text and the response as a value. -/
structure GenerationResult where
  /-- The form of the result. -/
  format : ResultFormat
  /-- The generated text. -/
  text : String
  /-- The response as a value. -/
  json : Value
  deriving DecidableEq, Inhabited

namespace GenerationResult

/-- The result that a step makes of the response `r`. -/
def ofResponse (r : Response) : GenerationResult :=
  ⟨.text, r.text, r.toValue⟩

/-- A result as a value. -/
def toValue (r : GenerationResult) : Value :=
  .object [("format", .string r.format.name), ("json", r.json), ("text", .string r.text)]

/-- The result that a value describes. -/
def ofValue? (v : Value) : Option GenerationResult := do
  match ← v.members? ["format", "text", "json"] with
  | [some format, some text, some json] =>
    return ⟨← ResultFormat.ofValue? format, ← text.string?, json⟩
  | _ => none

end GenerationResult

end Promptbook
