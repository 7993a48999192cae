import Promptbook.Template.Expression
import Promptbook.Template.Filter.Standard

/-!
# Words of the Template Language

Reads literals, variables, filter chains and the other words of outputs and tags. Blanks between
words are spaces and line ends. Words that stand for values are recognised before names, wherever
they begin a name.
-/

namespace Promptbook.Template

/-- Whether `c` is a blank between words. -/
def isGap (c : Char) : Bool :=
  c == ' ' || c == '\n' || c == '\r'

/-- The text `s` without the blanks at its start. -/
def skipGap (s : List Char) : List Char :=
  s.dropWhile isGap

/-- What follows `text` at the start of `s`. -/
def after? (text : String) (s : List Char) : Option (List Char) :=
  Text.restAfter? text.toList s

/-- Whether a hyphen in front of a text belongs to a closing delimiter. -/
def closesHere : List Char → Bool
  | '\x7d' :: '\x7d' :: _ => true
  | '%' :: '\x7d' :: _ => true
  | _ => false

/-- Read the rest of an identifier. -/
def identifierRest : List Char → List Char × List Char
  | [] => ([], [])
  | c :: s =>
    if c.isAlphanum || c == '_' || (c == '-' && !closesHere s) then
      let (name, rest) := identifierRest s
      (c :: name, rest)
    else ([], c :: s)

/-- Read an identifier. -/
def identifier? : List Char → Option (String × List Char)
  | [] => none
  | c :: s =>
    if c.isAlpha || c == '_' || (c == '-' && !closesHere s) then
      let (name, rest) := identifierRest s
      some (String.ofList (c :: name), rest)
    else none

/-- Read a text in quotes. -/
def quotedLiteral? : List Char → Option (Operand × List Char)
  | [] => none
  | quote :: s =>
    if quote == '"' || quote == '\'' then
      match s.dropWhile (· != quote) with
      | [] => none
      | _ :: rest => some (.value (.string (String.ofList (s.takeWhile (· != quote)))), rest)
    else none

/-- Read a number. A point without a digit behind it does not belong to the number. -/
def numberLiteral? (s : List Char) : Option (Operand × List Char) :=
  let (negative, unsigned) := Decimal.Numeral.takeSign s
  let whole := unsigned.takeWhile Char.isDigit
  let rest := unsigned.dropWhile Char.isDigit
  if whole.isEmpty then none
  else
    let asWhole : Option (Operand × List Char) :=
      let n : Int := Decimal.digitsValue whole
      let signed := if negative then -n else n
      if Whole.fits signed then some (.value (.int signed), rest) else none
    match rest with
    | '.' :: behind =>
      let fraction := behind.takeWhile Char.isDigit
      if fraction.isEmpty then asWhole
      else
        let x := Decimal.Numeral.toFloat ⟨whole, some fraction, none⟩ negative
        some (.value (.double x), behind.dropWhile Char.isDigit)
    | _ => asWhole

/-- The words that stand for operands. -/
def literalWords : List (String × Operand) := [
  ("nil", .value .null), ("null", .value .null), ("empty", .empty), ("blank", .blank)]

/-- The words that stand for truth values. -/
def truthWords : List (String × Operand) := [
  ("true", .value (.bool true)), ("false", .value (.bool false))]

/-- Read one of `words`. -/
def word? (words : List (String × Operand)) (s : List Char) : Option (Operand × List Char) :=
  words.findSome? fun (word, operand) => (after? word s).map fun rest => (operand, rest)

/-- Read a literal. -/
def literal? (s : List Char) : Option (Operand × List Char) :=
  word? literalWords s <|> quotedLiteral? s <|> numberLiteral? s <|> word? truthWords s

mutual

/-- Read a literal or a variable. The `fuel` bounds how deep indexes nest. -/
def value? : (fuel : Nat) → List Char → Option (Expression × List Char)
  | 0, _ => none
  | fuel + 1, s =>
    match literal? s with
    | some (operand, rest) => some (.literal operand, rest)
    | none =>
      match identifier? s with
      | none => none
      | some (root, rest) =>
        let (indexes, rest) := indexes fuel rest
        some (.variable root indexes, rest)

/-- Read the indexes behind a variable. -/
def indexes : (fuel : Nat) → List Char → List Expression × List Char
  | 0, s => ([], s)
  | fuel + 1, s =>
    match index? fuel s with
    | none => ([], s)
    | some (e, rest) =>
      let (more, rest) := indexes fuel rest
      (e :: more, rest)

/-- Read an index: a point and a name, or a value between brackets. -/
def index? : (fuel : Nat) → List Char → Option (Expression × List Char)
  | 0, _ => none
  | fuel + 1, s =>
    match s with
    | '.' :: s =>
      (identifier? s).map fun (name, rest) => (.literal (.value (.string name)), rest)
    | '[' :: s =>
      match value? fuel (skipGap s) with
      | none => none
      | some (e, rest) =>
        match skipGap rest with
        | ']' :: rest => some (e, rest)
        | _ => none
    | _ => none

end

/-- Fuel that suffices to read `s`. -/
def fuelFor (s : List Char) : Nat :=
  3 * s.length + 3

/-- Read a literal or a variable. -/
def expression? (s : List Char) : Option (Expression × List Char) :=
  value? (fuelFor s) s

/-- The argument of a filter as it is written. -/
inductive WrittenArgument where
  /-- An argument by position. -/
  | positional (e : Expression)
  /-- An argument by name. -/
  | named (name : String) (e : Expression)
  deriving Inhabited

/-- A filter as it is written. -/
structure WrittenFilter where
  /-- The name of the filter. -/
  name : String
  /-- The arguments. -/
  arguments : List WrittenArgument
  deriving Inhabited

/-- A chain of filters as it is written. -/
structure WrittenChain where
  /-- The expression at the start. -/
  entry : Expression
  /-- The filters behind it. -/
  filters : List WrittenFilter
  deriving Inhabited

/-- Read an argument by name. -/
def namedArgument? (s : List Char) : Option (WrittenArgument × List Char) := do
  let (name, rest) ← identifier? s
  let rest ← after? ":" (skipGap rest)
  let (e, rest) ← expression? (skipGap rest)
  return (.named name e, rest)

/-- Read an argument of a filter. -/
def writtenArgument? (s : List Char) : Option (WrittenArgument × List Char) :=
  namedArgument? s <|> (expression? s).map fun (e, rest) => (.positional e, rest)

/-- Read more arguments, each behind a comma. The `fuel` bounds their number. -/
def moreArguments : (fuel : Nat) → List Char → List WrittenArgument × List Char
  | 0, s => ([], s)
  | fuel + 1, s =>
    match (after? "," (skipGap s)).bind fun rest => writtenArgument? (skipGap rest) with
    | none => ([], s)
    | some (argument, rest) =>
      let (more, rest) := moreArguments fuel rest
      (argument :: more, rest)

/-- Read the arguments of a filter, if there are any. -/
def writtenArguments (s : List Char) : List WrittenArgument × List Char :=
  match (after? ":" (skipGap s)).bind fun rest => writtenArgument? (skipGap rest) with
  | none => ([], s)
  | some (argument, rest) =>
    let (more, rest) := moreArguments rest.length rest
    (argument :: more, rest)

/-- Read filters, each behind a bar. The `fuel` bounds their number. -/
def writtenFilters : (fuel : Nat) → List Char → List WrittenFilter × List Char
  | 0, s => ([], s)
  | fuel + 1, s =>
    match (after? "|" (skipGap s)).bind fun rest => identifier? (skipGap rest) with
    | none => ([], s)
    | some (name, rest) =>
      let (arguments, rest) := writtenArguments rest
      let (more, rest) := writtenFilters fuel rest
      (⟨name, arguments⟩ :: more, rest)

/-- Read an expression with the filters behind it. -/
def writtenChain? (s : List Char) : Option (WrittenChain × List Char) :=
  (expression? s).map fun (entry, rest) =>
    let (filters, rest) := writtenFilters rest.length rest
    (⟨entry, filters⟩, rest)

/-- A word of a tag. -/
inductive Word where
  /-- A range of whole numbers, with its first and its last one. -/
  | range (first last : Expression)
  /-- An expression with filters. -/
  | chain (chain : WrittenChain)
  /-- A sign. -/
  | sign
  deriving Inhabited

/-- A word of a tag with its spelling. -/
structure SpelledWord where
  /-- The word. -/
  word : Word
  /-- Its spelling. -/
  spelling : String
  deriving Inhabited

/-- The signs between expressions in tags. -/
def signs : List String := ["==", "!=", "<>", ">=", "<=", "|", "<", ">", "=", ",", ":"]

/-- Read a range. -/
def range? (s : List Char) : Option (Word × List Char) := do
  let rest ← after? "(" s
  let (first, rest) ← expression? (skipGap rest)
  let rest ← after? ".." (skipGap rest)
  let (last, rest) ← expression? (skipGap rest)
  let rest ← after? ")" (skipGap rest)
  return (.range first last, rest)

/-- Read a word of a tag. -/
def spelledWord? (s : List Char) : Option (SpelledWord × List Char) :=
  let found := range? s
    <|> ((writtenChain? s).map fun (chain, rest) => (Word.chain chain, rest))
    <|> signs.findSome? fun sign => (after? sign s).map fun rest => (Word.sign, rest)
  found.map fun (word, rest) => (⟨word, String.ofList (s.take (s.length - rest.length))⟩, rest)

/-- Read as many words as there are. The `fuel` bounds their number. -/
def spelledWords : (fuel : Nat) → List Char → List SpelledWord × List Char
  | 0, s => ([], s)
  | fuel + 1, s =>
    match spelledWord? (skipGap s) with
    | none => ([], s)
    | some (word, rest) =>
      let (more, rest) := spelledWords fuel rest
      (word :: more, rest)

/-- The positional arguments, if all are. -/
def positional? : List WrittenArgument → Option (List Expression)
  | [] => some []
  | .positional e :: rest => (positional? rest).map (e :: ·)
  | .named _ _ :: _ => none

/-- Find the filter that is `written`. -/
def WrittenFilter.resolve (written : WrittenFilter) : Except Misreading FilterUse :=
  match Filter.find? written.name with
  | none => .error (.unknownFilter written.name)
  | some filter =>
    match positional? written.arguments with
    | none => .error (.wrongArguments written.name)
    | some arguments =>
      if filter.takes arguments.length then .ok ⟨filter, arguments⟩
      else .error (.wrongArguments written.name)

/-- Find the filters of the chain `written`. -/
def WrittenChain.resolve (written : WrittenChain) : Except Misreading Chain :=
  (written.filters.mapM WrittenFilter.resolve).map fun uses => ⟨written.entry, uses⟩

end Promptbook.Template
