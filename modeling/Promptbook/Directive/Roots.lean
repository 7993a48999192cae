import Promptbook.Directive.Grammar

/-!
# Variables that a Template Reads

Finds, by a look at the text alone, the variables at the heads of outputs, in conditions and in the
sources of loops. Those that the caller does not define are rendered as absent values.
-/

namespace Promptbook.Roots

/-- Whether `c` starts a name. -/
def startsName (c : Char) : Bool :=
  c.isAlpha || c == '_'

/-- Whether `c` continues a name. -/
def continuesName (c : Char) : Bool :=
  Text.isWord c || c == '-'

/-- Read a name, with what follows it. -/
def name? : List Char → Option (String × List Char)
  | [] => none
  | c :: s =>
    if startsName c then
      some (String.ofList (c :: s.takeWhile continuesName), s.dropWhile continuesName)
    else none

/-- The text behind a hyphen and white space that may stand inside an opening delimiter. -/
def inside (s : List Char) : List Char :=
  match s with
  | '-' :: rest => Text.dropSpace rest
  | _ => Text.dropSpace s

/-- The text behind white space, of which there is some. -/
def afterSpace? (s : List Char) : Option (List Char) :=
  match s with
  | c :: rest => if Text.isSpace c then some (Text.dropSpace rest) else none
  | [] => none

/-- What follows `word` at the start of `s`. -/
def after? (word : String) (s : List Char) : Option (List Char) :=
  if word.toList.isPrefixOf s then some (s.drop word.length) else none

/-- The variable at the head of the output that opens at the start of `s`. -/
def outputRoot? (s : List Char) : Option String :=
  match s with
  | '\x7b' :: '\x7b' :: rest => (name? (inside rest)).map Prod.fst
  | _ => none

/-- The text inside the tag that opens at the start of `s`. -/
def tagContent? (s : List Char) : Option (List Char) :=
  match s with
  | '\x7b' :: '%' :: rest => some (inside rest)
  | _ => none

/-- The variable that the loop goes through which opens at the start of `s`. -/
def loopRoot? (s : List Char) : Option String := do
  let rest ← after? "for" (← tagContent? s)
  let (_, rest) ← name? (← afterSpace? rest)
  let rest ← after? "in" (← afterSpace? rest)
  let (root, _) ← name? (← afterSpace? rest)
  return root

/-- The tags that hold conditions. -/
def conditionTags : List String := ["if", "elsif", "unless", "case", "when"]

/-- The condition in the tag that opens at the start of `s`; it holds no percent sign. -/
def conditionText? (s : List Char) : Option (List Char) := do
  let content ← tagContent? s
  let rest ← conditionTags.findSome? fun tag => after? tag content
  match rest with
  | c :: rest =>
    match rest.dropWhile (· != '%') with
    | '%' :: '\x7d' :: _ => if Text.isSpace c then some (rest.takeWhile (· != '%')) else none
    | _ => none
  | [] => none

/-- The text `s` with a blank in place of every quoted text. -/
def withoutQuoted (s : List Char) : List Char :=
  match _quoted : Grammar.quoted? s with
  | some (_, rest) => ' ' :: withoutQuoted rest
  | none =>
    match _s : s with
    | [] => []
    | c :: rest => c :: withoutQuoted rest
termination_by s.length
decreasing_by
  · exact Grammar.length_lt_of_quoted? _quoted
  · simp

/-- The words of conditions that are no variables. -/
def operatorWords : List String :=
  ["and", "or", "contains", "true", "false", "nil", "null", "empty", "blank"]

/-- The names in a condition; `fresh` says whether a name may start at once. A name does not start
behind a word character, a point or a hyphen. -/
def namesFrom (fresh : Bool) : List Char → List String
  | [] => []
  | c :: s =>
    if fresh && startsName c then
      String.ofList (c :: s.takeWhile continuesName) :: namesFrom false s
    else namesFrom (!(Text.isWord c || c == '.' || c == '-')) s

/-- The variables of `condition`. -/
def conditionRoots (condition : List Char) : List String :=
  (namesFrom true (withoutQuoted condition)).filter fun name => !operatorWords.contains name

/-- The variables that are read by the output or tag that opens at the start of `s`. -/
def rootsHere (s : List Char) : List String :=
  (outputRoot? s).toList ++ (loopRoot? s).toList ++
    (((conditionText? s).map conditionRoots).getD [])

/-- The variables that a template reads. -/
def roots : List Char → List String
  | [] => []
  | c :: s => rootsHere (c :: s) ++ roots s

/-- The variables of a rendering: the inputs, and an absent value for every variable that `source`
reads and `inputs` do not define. -/
def globals (inputs : Variables) (source : String) : Variables :=
  (roots source.toList).foldl
    (fun all name => if all.has name then all else all.put name .null) inputs

end Promptbook.Roots
