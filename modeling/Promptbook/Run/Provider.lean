import Promptbook.Data.Fields
import Promptbook.Error
import Promptbook.Text.Search
import Promptbook.Workflow.Response

/-!
# Providers of Generated Text

A provider answers a request with a text, whole or in pieces. A provider may have a world of its
own, of type `ω`, which its answers may depend on and change. The name of a model tells the
provider: it is what stands before the first slash.
-/

namespace Promptbook

/-- What a provider is asked for. -/
structure Request where
  /-- The prompt. -/
  prompt : String
  /-- The model, without the name of the provider. -/
  model : String
  /-- The temperature. -/
  temperature : Float
  deriving DecidableEq, Inhabited

/-- A piece of a generated text. -/
structure Chunk where
  /-- The text. -/
  content : String
  /-- Whether it is the last piece. -/
  isLast : Bool
  deriving DecidableEq, Inhabited

namespace Chunk

/-- A chunk as a value. -/
def toValue (chunk : Chunk) : Value :=
  if chunk.isLast then
    .object [("content", .string chunk.content), ("finish_reason", .string "Stop"),
      ("is_final", .bool true)]
  else .object [("content", .string chunk.content), ("is_final", .bool false)]

end Chunk

/-- A provider of generated text. -/
structure Provider (ω : Type) where
  /-- The name. -/
  name : String
  /-- Answer a request as a whole. -/
  generate : Request → StateM ω (Except Error Response)
  /-- Answer a request in pieces, if the provider has a way of its own to do so. A piece may be
  missing because the provider failed there. -/
  pieces : Option (Request → StateM ω (Except Error (List (Except Error Chunk))))

variable {ω : Type}

/-- Answer `request` in pieces. A provider without a way of its own gives its whole answer as the
only piece. -/
def Provider.stream (provider : Provider ω) (request : Request) :
    StateM ω (Except Error (List (Except Error Chunk))) :=
  match provider.pieces with
  | some pieces => pieces request
  | none => do
    match ← provider.generate request with
    | .ok response => return .ok [.ok ⟨response.text, true⟩]
    | .error e => return .error e

/-- The known providers, by name. -/
abbrev Providers (ω : Type) := Fields (Provider ω)

namespace Providers

/-- The providers with `provider`, in place of one with the same name. -/
def register (providers : Providers ω) (provider : Provider ω) : Providers ω :=
  providers.put provider.name provider

/-- The providers that the registrations in `all`, one after the other, amount to. -/
def ofList (all : List (Provider ω)) : Providers ω :=
  all.foldl register []

/-- The name of the provider and the name of the model in `identifier`. -/
def splitModel? (identifier : String) : Option (String × String) :=
  (Text.breakAt? ['/'] identifier.toList).map fun (before, after) =>
    (String.ofList before, String.ofList after)

/-- The provider that `identifier` names, and the name of the model that it knows. -/
def resolve (providers : Providers ω) (identifier : String) :
    Except Error (Provider ω × String) :=
  match splitModel? identifier with
  | none => .error (.unsupportedModel identifier)
  | some (name, model) =>
    match providers.value? name with
    | some provider => .ok (provider, model)
    | none => .error (.unsupportedModel identifier)

end Providers

end Promptbook
