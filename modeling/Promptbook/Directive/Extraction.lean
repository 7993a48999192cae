import Promptbook.Directive.Grammar
import Promptbook.Text.Search

/-!
# Extraction of Directives

Finds the directives in a template and puts a placeholder in place of each: a tag of the same name
whose only word is the number of the directive. Raw blocks and comments are left alone.
-/

namespace Promptbook

/-- A tag between `{%` and `%}`, each with a hyphen or without. -/
structure Markup where
  /-- Whether the opening delimiter has a hyphen. -/
  trimBefore : Bool
  /-- The name of the tag. -/
  name : List Char
  /-- What stands between the name and the closing delimiter. -/
  arguments : List Char
  /-- Whether the closing delimiter has a hyphen. -/
  trimAfter : Bool
  deriving DecidableEq

/-- A directive in a template. -/
structure Occurrence where
  /-- The name of the directive. -/
  name : String
  /-- The arguments as the template writes them. -/
  arguments : List ArgumentItem
  deriving DecidableEq, Inhabited

namespace Markup

/-- The opening delimiter of `markup`. -/
def opening (markup : Markup) : List Char :=
  if markup.trimBefore then ['\x7b', '%', '-'] else ['\x7b', '%']

/-- The closing delimiter of `markup`. -/
def closing (markup : Markup) : List Char :=
  if markup.trimAfter then ['-', '%', '\x7d'] else ['%', '\x7d']

/-- Read a closing delimiter: whether it has a hyphen, and what follows. -/
def closing? : List Char → Option (Bool × List Char)
  | '-' :: '%' :: '\x7d' :: s => some (true, s)
  | '%' :: '\x7d' :: s => some (false, s)
  | _ => none

/-- Read everything up to a closing delimiter that does not stand in quotes: what was read, whether
the delimiter has a hyphen, and what follows it. A quote that is not closed stands for itself. -/
def content? (s : List Char) : Option (List Char × Bool × List Char) :=
  match _quoted : Grammar.quoted? s with
  | some (_, rest) =>
    (content? rest).map fun (text, end_) => (s.take (s.length - rest.length) ++ text, end_)
  | none =>
    match closing? s with
    | some (trim, rest) => some ([], trim, rest)
    | none =>
      match _s : s with
      | [] => none
      | c :: rest => (content? rest).map fun (text, end_) => (c :: text, end_)
termination_by s.length
decreasing_by
  · exact Grammar.length_lt_of_quoted? _quoted
  · simp

/-- Read the tag at the start of `s`, with what follows it. -/
def read? (s : List Char) : Option (Markup × List Char) :=
  let inside (trimBefore : Bool) (s : List Char) : Option (Markup × List Char) := do
    let (name, rest) ← Grammar.key? (Grammar.dropBlank s)
    let (arguments, trimAfter, rest) ← content? rest
    return (⟨trimBefore, name, arguments, trimAfter⟩, rest)
  match s with
  | '\x7b' :: '%' :: '-' :: s => inside true s
  | '\x7b' :: '%' :: s => inside false s
  | _ => none

end Markup

/-- The decimal digits of `n`. -/
def numeral (n : Nat) : List Char :=
  (toString n).toList

/-- The placeholder of a directive: its tag with the number `index` instead of the arguments. -/
def Markup.placeholder (markup : Markup) (index : Nat) : List Char :=
  markup.opening ++ ' ' :: markup.name ++ ' ' :: numeral index ++ ' ' :: markup.closing

/-- What follows the end tag of `block` that stands at the start of `s`. -/
def afterEndTag? (block : List Char) (s : List Char) : Option (List Char) :=
  let inside (s : List Char) : Option (List Char) :=
    (Text.restAfter? ("end".toList ++ block) (Text.dropSpace s)).bind fun rest =>
      (Markup.closing? (Text.dropSpace rest)).map fun found => found.2
  match s with
  | '\x7b' :: '%' :: '-' :: s => inside s
  | '\x7b' :: '%' :: s => inside s
  | _ => none

/-- What follows the first end tag of `block` in `s`; nothing if there is none. -/
def afterBlock (block : List Char) (s : List Char) : List Char :=
  match afterEndTag? block s with
  | some rest => rest
  | none => match s with
    | [] => []
    | _ :: s => afterBlock block s

/-- Whether `name` is that of a block that is left alone. -/
def isVerbatim (name : List Char) : Bool :=
  name == "raw".toList || name == "comment".toList

/-- What `extractFrom` makes of a text. -/
structure Extraction where
  /-- The text with a placeholder for each directive. -/
  template : List Char
  /-- The directives, by their numbers. -/
  occurrences : List Occurrence
  deriving DecidableEq

theorem Markup.length_le_of_closing? {s rest : List Char} {trim : Bool}
    (h : Markup.closing? s = some (trim, rest)) : rest.length < s.length := by
  unfold Markup.closing? at h
  split at h
  · obtain ⟨_, rfl⟩ := by simpa using h
    simp only [List.length_cons]; omega
  · obtain ⟨_, rfl⟩ := by simpa using h
    simp only [List.length_cons]; omega
  · simp at h

theorem Markup.length_le_of_content? {s text rest : List Char} {trim : Bool}
    (h : Markup.content? s = some (text, trim, rest)) : rest.length < s.length := by
  -- By the recursion of the reader: a quoted text, the end of the tag, the end of the source, a
  -- character.
  induction s using Markup.content?.induct generalizing text trim rest with
  | case1 s body tail hq ih =>
    rw [Markup.content?] at h
    split at h
    · rename_i hq'
      rw [hq] at hq'
      cases hq'
      obtain ⟨⟨text', trim', rest'⟩, hc, e⟩ := Option.map_eq_some_iff.1 h
      simp only [Prod.mk.injEq] at e
      obtain ⟨_, rfl, rfl⟩ := e
      have := ih hc
      have := Grammar.length_lt_of_quoted? hq
      omega
    · rename_i hq'
      simp [hq] at hq'
  | case2 s hq trim' rest' hc =>
    rw [Markup.content?] at h
    split at h
    · rename_i hq'
      simp [hq] at hq'
    · simp only [hc, Option.some.injEq, Prod.mk.injEq] at h
      obtain ⟨_, _, rfl⟩ := h
      exact Markup.length_le_of_closing? hc
  | case3 hq hc =>
    rw [Markup.content?] at h
    split at h
    · rename_i hq'
      simp [Grammar.quoted?] at hq'
    · simp [Markup.closing?] at h
  | case4 c tail hq hc ih =>
    rw [Markup.content?] at h
    split at h
    · rename_i hq'
      simp [hq] at hq'
    · simp only [hc] at h
      obtain ⟨⟨text', trim', rest'⟩, hc', e⟩ := Option.map_eq_some_iff.1 h
      simp only [Prod.mk.injEq] at e
      obtain ⟨_, rfl, rfl⟩ := e
      have := ih hc'
      simp only [List.length_cons]; omega

theorem Markup.length_lt_of_read? {s rest : List Char} {markup : Markup}
    (h : Markup.read? s = some (markup, rest)) : rest.length < s.length := by
  -- Both kinds of opening are followed by a name and the content up to the end of the tag.
  have inner : ∀ (trim : Bool) (t : List Char) (m : Markup) (r : List Char),
      (do
        let (name, rest) ← Grammar.key? (Grammar.dropBlank t)
        let (arguments, trimAfter, rest) ← Markup.content? rest
        return ((⟨trim, name, arguments, trimAfter⟩ : Markup), rest)) = some (m, r) →
      r.length < t.length := by
    intro trim t m r h
    cases hk : Grammar.key? (Grammar.dropBlank t) with
    | none => simp [hk] at h
    | some found =>
      obtain ⟨name, tail⟩ := found
      cases hc : Markup.content? tail with
      | none => simp [hk, hc] at h
      | some found =>
        obtain ⟨text, trimAfter, rest'⟩ := found
        simp only [hk, hc, Option.bind_eq_bind, Option.bind_some, Option.pure_def,
          Option.some.injEq, Prod.mk.injEq] at h
        obtain ⟨_, rfl⟩ := h
        have := Grammar.length_lt_of_key? hk
        have := Markup.length_le_of_content? hc
        have := Grammar.length_le_of_dropBlank t
        omega
  unfold Markup.read? at h
  simp only at h
  split at h
  · have := inner _ _ _ _ h
    simp only [List.length_cons]; omega
  · have := inner _ _ _ _ h
    simp only [List.length_cons]; omega
  · simp at h

theorem length_le_of_afterBlock (block s : List Char) :
    (afterBlock block s).length ≤ s.length := by
  have spaces : ∀ t : List Char, (Text.dropSpace t).length ≤ t.length :=
    fun t => Grammar.length_dropWhile_le _ t
  -- What follows the opening of an end tag: the name of the block and the closing, each shortens
  -- the rest.
  have inner : ∀ t rest : List Char,
      ((Text.restAfter? ("end".toList ++ block) (Text.dropSpace t)).bind fun rest =>
        (Markup.closing? (Text.dropSpace rest)).map fun found => found.2) = some rest →
      rest.length ≤ t.length := by
    intro t rest h
    obtain ⟨mid, hm, h⟩ := Option.bind_eq_some_iff.1 h
    obtain ⟨⟨trim, tail⟩, hc, rfl⟩ := Option.map_eq_some_iff.1 h
    have := Markup.length_le_of_closing? hc
    have := spaces mid
    have := spaces t
    have := congrArg List.length (Text.restAfter?_eq_some.1 hm)
    simp only [List.length_append] at this
    simp only
    omega
  induction s with
  | nil =>
    rw [afterBlock]
    split
    · rename_i h
      simp [afterEndTag?] at h
    · simp
  | cons c s ih =>
    rw [afterBlock]
    split
    · rename_i rest h
      unfold afterEndTag? at h
      simp only at h
      split at h
      · rename_i e
        have := inner _ _ h
        rw [e]; simp only [List.length_cons]; omega
      · rename_i e
        have := inner _ _ h
        rw [e]; simp only [List.length_cons]; omega
      · simp at h
    · simp only [List.length_cons]; omega

/-- Extract the directives from `s`; `index` is the number of the next one. The error names the
first directive whose arguments do not follow the grammar, and says where they stop. -/
def extractFrom (isDirective : String → Bool) (index : Nat) (s : List Char) :
    Except (String × List Char) Extraction :=
  match _markup : Markup.read? s with
  | some (markup, rest) =>
    let tag := String.ofList markup.name
    -- A block that is not closed extends to the end of the text.
    if isVerbatim markup.name then
      let after := afterBlock markup.name rest
      (extractFrom isDirective index after).map fun found =>
        { found with template := s.take (s.length - after.length) ++ found.template }
    else if isDirective tag then
      match Grammar.arguments markup.arguments with
      | .error offending => .error (tag, offending)
      | .ok items =>
        (extractFrom isDirective (index + 1) rest).map fun found =>
          ⟨markup.placeholder index ++ found.template, ⟨tag, items⟩ :: found.occurrences⟩
    else
      -- Any other tag is not passed over as a whole: a directive may stand inside it.
      match _s : s with
      | [] => .ok ⟨[], []⟩
      | c :: tail =>
        (extractFrom isDirective index tail).map fun found =>
          { found with template := c :: found.template }
  | none =>
    match _s : s with
    | [] => .ok ⟨[], []⟩
    | c :: tail =>
      (extractFrom isDirective index tail).map fun found =>
        { found with template := c :: found.template }
termination_by s.length
decreasing_by
  · have := Markup.length_lt_of_read? _markup
    have := length_le_of_afterBlock markup.name rest
    omega
  · exact Markup.length_lt_of_read? _markup
  · simp
  · simp

/-- Extract the directives from `source`. -/
def extract (isDirective : String → Bool) (source : String) :
    Except (String × List Char) Extraction :=
  extractFrom isDirective 0 source.toList

end Promptbook
