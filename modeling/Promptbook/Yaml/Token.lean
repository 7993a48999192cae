/-!
# Tokens of YAML Text

The words of a YAML text. The indentation of blocks is made explicit: a token opens each block and
one closes it.
-/

namespace Promptbook.Yaml

/-- A token. -/
inductive Token where
  /-- The mark that starts a document. -/
  | documentStart
  /-- The mark that ends a document. -/
  | documentEnd
  /-- A directive that gives the version. -/
  | version
  /-- A directive that gives the meaning of a tag handle. -/
  | handle (name meaning : String)
  /-- The start of a sequence by indentation. -/
  | blockSequence
  /-- The start of a mapping by indentation. -/
  | blockMapping
  /-- The end of a block. -/
  | blockEnd
  /-- `[` -/
  | flowSequence
  /-- `]` -/
  | flowSequenceEnd
  /-- An opening brace. -/
  | flowMapping
  /-- A closing brace. -/
  | flowMappingEnd
  /-- `,` -/
  | comma
  /-- The dash in front of an item. -/
  | dash
  /-- The start of a name, with or without a question mark. -/
  | key
  /-- The colon in front of a value. -/
  | value
  /-- A reference to an anchor. -/
  | alias (anchor : String)
  /-- A name for the node behind. -/
  | anchor (name : String)
  /-- The kind of the node behind. -/
  | tag (handle suffix : String)
  /-- A text; `plain` says that it has no quotes and is no block. -/
  | scalar (plain : Bool) (text : String)
  deriving DecidableEq

/-- Whether a token says something about the node behind. -/
def Token.isProperty : Token → Bool
  | anchor _ | tag _ _ => true
  | _ => false

end Promptbook.Yaml
