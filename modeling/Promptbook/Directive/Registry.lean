import Promptbook.Directive.Builtin.Examples
import Promptbook.Directive.Builtin.Field
import Promptbook.Directive.Builtin.Flow
import Promptbook.Directive.Builtin.WordCount
import Promptbook.Text.Quoted

/-!
# The Known Directives

The directives that are always there, and those that the caller adds.
-/

namespace Promptbook

/-- What the caller adds to planning. -/
structure Options (ω : Type) where
  /-- The awaited directives, by name. -/
  awaited : Fields (Call → StateM ω Reply)
  /-- The directives that run in place, by name. -/
  immediate : Fields (Call → StateM ω Reply)
  /-- The source of examples. -/
  retriever : Option (Retriever ω)

variable {ω : Type}

/-- Options without additions. -/
def Options.none : Options ω := ⟨[], [], Option.none⟩

/-- A summary of `options`. -/
def Options.summary (options : Options ω) : String :=
  "PlanOptions \x7b tags: " ++ Text.quotedList options.awaited.names ++ ", sync_tags: "
    ++ Text.quotedList options.immediate.names ++ ", retriever: "
    ++ (if options.retriever.isSome then "true" else "false") ++ " \x7d"

namespace Registry

/-- The directives that are always there; `retriever` is the source of examples. -/
def builtins (retriever : Option (Retriever ω)) : Registry ω :=
  Fields.collect [
    ("chars_to_words", Builtin.charsToWords),
    ("done", Builtin.done),
    ("examples", Builtin.examples retriever),
    ("field", Builtin.field),
    ("goto", Builtin.goto),
    ("wordcount", Builtin.charsToWords)]

/-- The directives that are always there, over them those that the caller adds to run in place, and
over these those that the caller adds to be awaited. -/
def ofOptions (options : Options ω) : Registry ω :=
  Fields.overlay
    (Fields.overlay (builtins options.retriever)
      (options.immediate.map fun entry => (entry.1, ⟨false, entry.2⟩)))
    (options.awaited.map fun entry => (entry.1, ⟨true, entry.2⟩))

/-- A directive `name` that the caller adds to run in place is known. -/
theorem has_ofOptions {options : Options ω} {name : String}
    (h : options.immediate.has name = true) : (ofOptions options).has name = true := by
  rw [ofOptions, Fields.has_overlay, Fields.has_overlay, Fields.has_mapValues,
    Fields.has_mapValues, h, Bool.true_or, Bool.or_true]

end Registry

end Promptbook
