import Mathlib.Data.List.Forall2
import Promptbook.Proofs.Directive.Markup

/-!
# What Extraction Keeps and Replaces

Extraction puts numbered placeholders in place of the directives of a template and keeps everything
else. Which directives there are is said by a scan of the text that knows of no numbers and no
arguments.

## Main definitions

* `Scans`: the directive tags that a scan of a text meets outside of raw blocks and comments.
* `Markup.malformed?`: a tag whose arguments do not follow the grammar, and where they stop.
* `Part`: a kept stretch of a text with the directive tag behind it.
* `Rewrites`: how a text and its extraction are put together from the same parts.

## Main results

* `exists_scans`, `Scans.unique`: every text is scanned in one way.
* `extractFrom_of_scans`: what extraction makes of a text is determined by its scan.
* `extract_rewrites`: a text is extracted part by part, or the first malformed tag is reported.
-/

namespace Promptbook

/-- Neither a block that is left alone nor a directive starts at the beginning of `s`. -/
def IsPlain (isDirective : String → Bool) (s : List Char) : Prop :=
  ∀ markup rest, Markup.read? s = some (markup, rest) →
    isVerbatim markup.name = false ∧ isDirective (String.ofList markup.name) = false

/-- A scan of a text meets these directive tags, in this order, outside of raw blocks and
comments. -/
inductive Scans (isDirective : String → Bool) : List Char → List Markup → Prop where
  /-- At the end of the text there is nothing to meet. -/
  | finished : Scans isDirective [] []
  /-- The character `c`, where neither a block nor a directive starts, is passed by. -/
  | plain {c : Char} {s : List Char} {tags : List Markup} (hplain : IsPlain isDirective (c :: s))
      (hrest : Scans isDirective s tags) : Scans isDirective (c :: s) tags
  /-- A raw block or comment is passed by as a whole, and the scan goes on with the text `after`
  behind it. -/
  | block {s rest after : List Char} {markup : Markup} {tags : List Markup}
      (hread : Markup.read? s = some (markup, rest)) (hverbatim : isVerbatim markup.name = true)
      (hends : BlockEnds markup.name rest after) (hrest : Scans isDirective after tags) :
      Scans isDirective s tags
  /-- The tag of a directive is met, and the scan goes on with the `rest` behind it. -/
  | directive {s rest : List Char} {markup : Markup} {tags : List Markup}
      (hread : Markup.read? s = some (markup, rest)) (hverbatim : isVerbatim markup.name = false)
      (hdirective : isDirective (String.ofList markup.name) = true)
      (hrest : Scans isDirective rest tags) : Scans isDirective s (markup :: tags)

section Scan

variable {isDirective : String → Bool}

/-- A text that does not start with an opening delimiter is plain. -/
theorem isPlain_of_ne {s : List Char} (h : ∀ t, s ≠ '\x7b' :: '%' :: t) :
    IsPlain isDirective s := by
  intro markup rest hread
  obtain ⟨-, blanks, behind, -, hs, -⟩ := Markup.read?_eq_some.1 hread
  rw [Markup.opening] at hs
  split at hs
  · exact absurd hs (h _)
  · exact absurd hs (h _)

/-- Where a text is not plain, a tag is read, and this is one of a directive if it opens no
block. -/
theorem exists_read?_of_not_isPlain {s : List Char} (h : ¬ IsPlain isDirective s) :
    ∃ markup rest, Markup.read? s = some (markup, rest) ∧
      (isVerbatim markup.name = false → isDirective (String.ofList markup.name) = true) := by
  simpa [IsPlain] using h

/-- Every text `s` has a scan. -/
theorem exists_scans (isDirective : String → Bool) (s : List Char) :
    ∃ tags, Scans isDirective s tags := by
  -- Whatever is passed by or met, a shorter text is left.
  induction hlength : s.length using Nat.strongRecOn generalizing s with
  | ind n ih =>
    subst hlength
    by_cases hplain : IsPlain isDirective s
    · cases s with
      | nil => exact ⟨[], .finished⟩
      | cons c s =>
        obtain ⟨tags, htags⟩ := ih s.length (Nat.lt_succ_self _) s rfl
        exact ⟨tags, .plain hplain htags⟩
    · obtain ⟨markup, rest, hread, hspecial⟩ := exists_read?_of_not_isPlain hplain
      have hshorter := Markup.length_lt_of_read? hread
      cases hverbatim : isVerbatim markup.name with
      | true =>
        have hafter := length_le_of_afterBlock markup.name rest
        obtain ⟨tags, htags⟩ := ih _ (Nat.lt_of_le_of_lt hafter hshorter)
          (afterBlock markup.name rest) rfl
        exact ⟨tags, .block hread hverbatim (blockEnds_afterBlock _ _) htags⟩
      | false =>
        obtain ⟨tags, htags⟩ := ih _ hshorter rest rfl
        exact ⟨markup :: tags, .directive hread hverbatim (hspecial hverbatim) htags⟩

/-- A text `s` has only one scan. -/
theorem Scans.unique {s : List Char} {tags tags' : List Markup} (h : Scans isDirective s tags)
    (h' : Scans isDirective s tags') : tags = tags' := by
  -- On the first scan. At each position what is read there decides the constructor of the second
  -- one too: two different ones would make a tag verbatim and not, or a directive and not.
  induction h generalizing tags' with
  | finished =>
    cases h' with
    | finished => rfl
    | block hread => cases hread
    | directive hread => cases hread
  | plain hplain _ ih =>
    cases h' with
    | plain _ hrest => exact ih hrest
    | block hread hverbatim =>
      rw [(hplain _ _ hread).1] at hverbatim
      cases hverbatim
    | directive hread _ hdirective =>
      rw [(hplain _ _ hread).2] at hdirective
      cases hdirective
  | block hread hverbatim hends _ ih =>
    cases h' with
    | finished => cases hread
    | plain hplain =>
      rw [(hplain _ _ hread).1] at hverbatim
      cases hverbatim
    | block hread' _ hends' hrest =>
      rw [hread] at hread'
      cases hread'
      -- Both scans skip the same block, as a block has one end.
      obtain rfl := hends.unique hends'
      exact ih hrest
    | directive hread' hverbatim' =>
      rw [hread] at hread'
      cases hread'
      rw [hverbatim] at hverbatim'
      cases hverbatim'
  | directive hread hverbatim hdirective _ ih =>
    cases h' with
    | finished => cases hread
    | plain hplain =>
      rw [(hplain _ _ hread).2] at hdirective
      cases hdirective
    | block hread' hverbatim' =>
      rw [hread] at hread'
      cases hread'
      rw [hverbatim] at hverbatim'
      cases hverbatim'
    | directive hread' _ _ hrest =>
      rw [hread] at hread'
      cases hread'
      rw [ih hrest]

/-- Only tags of directives are met. -/
theorem Scans.directive_of_mem {s : List Char} {tags : List Markup} (h : Scans isDirective s tags) :
    ∀ markup ∈ tags, isDirective (String.ofList markup.name) = true := by
  induction h with
  | finished => nofun
  | plain _ _ ih => exact ih
  | block _ _ _ _ ih => exact ih
  | directive _ _ hdirective _ ih => exact List.forall_mem_cons.2 ⟨hdirective, ih⟩

end Scan

section Equations

variable {isDirective : String → Bool} {index : Nat} {s rest : List Char} {markup : Markup}

/-- Nothing is extracted from the empty text. -/
theorem extractFrom_nil : extractFrom isDirective index [] = .ok ⟨[], []⟩ := by
  rw [extractFrom]
  rfl

/-- The character `c`, where neither a block nor a directive starts, is copied into the template. -/
theorem extractFrom_plain {c : Char} (hplain : IsPlain isDirective (c :: s)) :
    extractFrom isDirective index (c :: s) =
      (extractFrom isDirective index s).map fun found =>
        { found with template := c :: found.template } := by
  rw [extractFrom]
  split
  · rename_i markup rest hread
    obtain ⟨hverbatim, hdirective⟩ := hplain markup rest hread
    simp [hverbatim, hdirective]
  · rfl

/-- A block `inside` a text is copied into the template as a whole. -/
theorem extractFrom_block {inside after : List Char}
    (hread : Markup.read? s = some (markup, rest)) (hverbatim : isVerbatim markup.name = true)
    (hends : BlockEnds markup.name rest after) (hs : s = inside ++ after) :
    extractFrom isDirective index s =
      (extractFrom isDirective index after).map fun found =>
        { found with template := inside ++ found.template } := by
  have hafter := blockEnds_iff.1 hends
  have hinside : s.take (s.length - after.length) = inside := by
    rw [hs, List.length_append, Nat.add_sub_cancel, List.take_left]
  rw [extractFrom]
  split
  · rename_i hread'
    rw [hread] at hread'
    cases hread'
    simp only [hverbatim, if_true, hafter, hinside]
  · rename_i hread'
    rw [hread] at hread'
    cases hread'

/-- A directive is replaced by its placeholder with the number `index`, unless its arguments are
malformed. -/
theorem extractFrom_directive (hread : Markup.read? s = some (markup, rest))
    (hverbatim : isVerbatim markup.name = false)
    (hdirective : isDirective (String.ofList markup.name) = true) :
    extractFrom isDirective index s =
      match Grammar.arguments markup.arguments with
      | .error offending => .error (String.ofList markup.name, offending)
      | .ok items =>
        (extractFrom isDirective (index + 1) rest).map fun found =>
          ⟨markup.placeholder index ++ found.template,
            ⟨String.ofList markup.name, items⟩ :: found.occurrences⟩ := by
  rw [extractFrom]
  split
  · rename_i hread'
    rw [hread] at hread'
    cases hread'
    simp only [hverbatim, hdirective, if_true]
    rfl
  · rename_i hread'
    rw [hread] at hread'
    cases hread'

end Equations

/-- The name of a tag whose arguments do not follow the grammar, with the text where they stop to do
so. -/
def Markup.malformed? (markup : Markup) : Option (String × List Char) :=
  match Grammar.arguments markup.arguments with
  | .error offending => some (String.ofList markup.name, offending)
  | .ok _ => none

/-- A stretch of a text that is kept, and the directive tag behind it. -/
structure Part where
  /-- The text before the tag. -/
  kept : List Char
  /-- The tag as it is written. -/
  tag : List Char
  /-- The tag as it is read. -/
  markup : Markup

/-- The tag of `part` is one complete tag of a directive. -/
structure Part.IsDirective (isDirective : String → Bool) (part : Part) : Prop where
  /-- The tag is read as the markup of the part, to its end. -/
  read : Markup.read? part.tag = some (part.markup, [])
  /-- The tag is written as its delimiters with blanks, its name and its arguments between them. -/
  written : ∃ blanks, (∀ c ∈ blanks, Text.isPlainSpace c = true) ∧
    part.tag = part.markup.opening ++ blanks ++ part.markup.name ++ part.markup.arguments ++
      part.markup.closing
  /-- The name does not start a block that is left alone. -/
  not_verbatim : isVerbatim part.markup.name = false
  /-- The name is that of a directive. -/
  directive : isDirective (String.ofList part.markup.name) = true

/-- An `occurrence` has the name and the arguments of the tag of `part`. -/
structure Part.Yields (part : Part) (occurrence : Occurrence) : Prop where
  /-- The name is that of the tag. -/
  name : occurrence.name = String.ofList part.markup.name
  /-- The arguments are what the argument text of the tag stands for. -/
  arguments : Grammar.arguments part.markup.arguments = .ok occurrence.arguments

/-- The text `s` and its `extraction` are put together from the same `parts` and from the text
`last` behind them: the text from kept stretches and tags, the template from the same stretches and
placeholders that are numbered from `index` on. Each part has its occurrence. -/
structure Rewrites (isDirective : String → Bool) (index : Nat) (s : List Char)
    (extraction : Extraction) (parts : List Part) (last : List Char) : Prop where
  /-- The text consists of the parts and of what is kept behind the last of them. -/
  source : s = (parts.flatMap fun part => part.kept ++ part.tag) ++ last
  /-- The template has a placeholder for each tag. -/
  template : extraction.template =
    ((parts.zipIdx index).flatMap fun (part, i) => part.kept ++ part.markup.placeholder i) ++ last
  /-- Every tag is one of a directive. -/
  tags : ∀ part ∈ parts, part.IsDirective isDirective
  /-- There is one occurrence for each part, in the same order. -/
  occurrences : List.Forall₂ Part.Yields parts extraction.occurrences

namespace Rewrites

variable {isDirective : String → Bool} {index : Nat} {s last : List Char} {extraction : Extraction}
  {parts : List Part}

/-- The empty text has no parts. -/
theorem nil : Rewrites isDirective index [] ⟨[], []⟩ [] [] where
  source := rfl
  template := rfl
  tags := nofun
  occurrences := .nil

/-- A stretch `kept` in front is added to what is kept before the first tag, or to what is kept at
the end if there is no tag. -/
theorem keep (h : Rewrites isDirective index s extraction parts last) (kept : List Char) :
    ∃ parts' last', parts'.map Part.markup = parts.map Part.markup ∧
      Rewrites isDirective index (kept ++ s)
        { extraction with template := kept ++ extraction.template } parts' last' := by
  -- The stretch joins the text before the first tag, or what stands behind the last one if there is
  -- none.
  cases parts with
  | nil =>
    refine ⟨[], kept ++ last, rfl, ?_, ?_, nofun, h.occurrences⟩
    · rw [h.source]
      rfl
    · show kept ++ extraction.template = _
      rw [h.template]
      rfl
  | cons part parts =>
    refine ⟨⟨kept ++ part.kept, part.tag, part.markup⟩ :: parts, last, rfl, ?_, ?_, ?_, ?_⟩
    · rw [h.source]
      simp
    · show kept ++ extraction.template = _
      rw [h.template]
      simp
    · obtain ⟨⟨hread, hwritten, hverbatim, hdirective⟩, htags⟩ := List.forall_mem_cons.1 h.tags
      exact List.forall_mem_cons.2 ⟨⟨hread, hwritten, hverbatim, hdirective⟩, htags⟩
    · obtain ⟨occurrence, occurrences, ⟨hname, harguments⟩, hrest, hall⟩ :=
        List.forall₂_cons_left_iff.1 h.occurrences
      show List.Forall₂ _ _ extraction.occurrences
      rw [hall]
      exact .cons ⟨hname, harguments⟩ hrest

/-- The tag of a directive in front is a part of its own, and its occurrence is the first one. -/
theorem directive {rest : List Char} {markup : Markup} {items : List ArgumentItem}
    (h : Rewrites isDirective (index + 1) rest extraction parts last)
    (hread : Markup.read? s = some (markup, rest)) (hverbatim : isVerbatim markup.name = false)
    (hdirective : isDirective (String.ofList markup.name) = true)
    (harguments : Grammar.arguments markup.arguments = .ok items) :
    ∃ part, part.markup = markup ∧
      Rewrites isDirective index s
        ⟨markup.placeholder index ++ extraction.template,
          ⟨String.ofList markup.name, items⟩ :: extraction.occurrences⟩ (part :: parts) last := by
  obtain ⟨blanks, hblanks, hs, halone⟩ := Markup.exists_spelling hread
  refine ⟨⟨[], markup.opening ++ blanks ++ markup.name ++ markup.arguments ++ markup.closing,
    markup⟩, rfl, ?_, ?_, ?_, ?_⟩
  · rw [hs, h.source]
    simp
  · show markup.placeholder index ++ extraction.template = _
    rw [h.template]
    simp
  · exact List.forall_mem_cons.2
      ⟨⟨halone, ⟨blanks, hblanks, rfl⟩, hverbatim, hdirective⟩, h.tags⟩
  · exact .cons ⟨rfl, harguments⟩ h.occurrences

end Rewrites

section Results

variable {isDirective : String → Bool} {s : List Char} {tags : List Markup}

/-- What extraction makes of a text is determined by the `tags` that its scan meets: the first
malformed one is reported, and if there is none the text is rewritten. -/
theorem extractFrom_of_scans (h : Scans isDirective s tags) (index : Nat) :
    match tags.findSome? Markup.malformed? with
    | some offence => extractFrom isDirective index s = .error offence
    | none => ∃ extraction parts last, extractFrom isDirective index s = .ok extraction ∧
        parts.map Part.markup = tags ∧ Rewrites isDirective index s extraction parts last := by
  induction h generalizing index with
  | finished => exact ⟨_, [], [], extractFrom_nil, rfl, .nil⟩
  | @plain c s tags hplain _ ih =>
    rw [extractFrom_plain hplain]
    have hrest := ih index
    cases hfirst : tags.findSome? Markup.malformed? with
    | some offence =>
      rw [hfirst] at hrest
      rw [hrest]
      rfl
    | none =>
      rw [hfirst] at hrest
      obtain ⟨extraction, parts, last, hextract, htags, hrewrites⟩ := hrest
      obtain ⟨parts', last', htags', hrewrites'⟩ := hrewrites.keep [c]
      rw [hextract]
      exact ⟨_, parts', last', rfl, htags'.trans htags, hrewrites'⟩
  | @block s rest after markup tags hread hverbatim hends _ ih =>
    -- The block is the tag that starts it and what stands before its end.
    obtain ⟨inside, hinside⟩ := hends.exists_eq_append
    obtain ⟨blanks, -, hs, -⟩ := Markup.exists_spelling hread
    rw [hinside, ← List.append_assoc] at hs
    rw [extractFrom_block hread hverbatim hends hs]
    have hrest := ih index
    cases hfirst : tags.findSome? Markup.malformed? with
    | some offence =>
      rw [hfirst] at hrest
      rw [hrest]
      rfl
    | none =>
      rw [hfirst] at hrest
      obtain ⟨extraction, parts, last, hextract, htags, hrewrites⟩ := hrest
      obtain ⟨parts', last', htags', hrewrites'⟩ := hrewrites.keep
        (markup.opening ++ blanks ++ markup.name ++ markup.arguments ++ markup.closing ++ inside)
      rw [← hs] at hrewrites'
      rw [hextract]
      exact ⟨_, parts', last', rfl, htags'.trans htags, hrewrites'⟩
  | @directive s rest markup tags hread hverbatim hdirective _ ih =>
    rw [extractFrom_directive hread hverbatim hdirective, List.findSome?_cons, Markup.malformed?]
    cases harguments : Grammar.arguments markup.arguments with
    | error offending => rfl
    | ok items =>
      have hrest := ih (index + 1)
      cases hfirst : tags.findSome? Markup.malformed? with
      | some offence =>
        rw [hfirst] at hrest
        simp only [hrest]
        rfl
      | none =>
        rw [hfirst] at hrest
        obtain ⟨extraction, parts, last, hextract, htags, hrewrites⟩ := hrest
        obtain ⟨part, hpart, hrewrites'⟩ :=
          hrewrites.directive hread hverbatim hdirective harguments
        simp only [hextract]
        exact ⟨_, part :: parts, last, rfl, by rw [List.map_cons, hpart, htags], hrewrites'⟩

/-- A tag is malformed as `(name, offending)` if its arguments follow the grammar up to `offending`
only. -/
theorem Markup.malformed?_eq_some {markup : Markup} {name : String} {offending : List Char} :
    markup.malformed? = some (name, offending) ↔
      Grammar.arguments markup.arguments = .error offending ∧ name = String.ofList markup.name := by
  unfold malformed?
  cases Grammar.arguments markup.arguments with
  | error offending' =>
    constructor
    · intro h
      cases h
      exact ⟨rfl, rfl⟩
    · rintro ⟨h, rfl⟩
      cases h
      rfl
  | ok items =>
    constructor
    · nofun
    · rintro ⟨h, -⟩
      cases h

/-- A tag is not malformed just when its arguments follow the grammar. -/
theorem Markup.malformed?_eq_none {markup : Markup} :
    markup.malformed? = none ↔ ∃ items, Grammar.arguments markup.arguments = .ok items := by
  unfold malformed?
  cases Grammar.arguments markup.arguments <;> simp

/-- Without parts the template is the text `s`. -/
theorem Rewrites.eq_of_nil {index : Nat} {extraction : Extraction} {last : List Char}
    (h : Rewrites isDirective index s extraction [] last) : extraction = ⟨s, []⟩ := by
  have hoccurrences := List.forall₂_nil_left_iff.1 h.occurrences
  have htemplate : extraction.template = s := h.template.trans h.source.symm
  rw [← hoccurrences, ← htemplate]

/-- Without directives there are no parts, so the template is the text `s`. -/
theorem Rewrites.eq_of_forall_not {index : Nat} {extraction : Extraction} {parts : List Part}
    {last : List Char} (h : Rewrites isDirective index s extraction parts last)
    (hnone : ∀ name, isDirective name = false) : extraction = ⟨s, []⟩ := by
  cases parts with
  | nil => exact h.eq_of_nil
  | cons part parts =>
    have hdirective := (h.tags part List.mem_cons_self).directive
    rw [hnone] at hdirective
    cases hdirective

/-- A text `s` in which the scan meets no tag is kept as it is. -/
theorem extractFrom_of_scans_nil (h : Scans isDirective s []) (index : Nat) :
    extractFrom isDirective index s = .ok ⟨s, []⟩ := by
  obtain ⟨extraction, parts, last, hextract, hparts, hrewrites⟩ := extractFrom_of_scans h index
  obtain rfl := List.map_eq_nil_iff.1 hparts
  rw [hextract, hrewrites.eq_of_nil]

/-- A `body` whose directives are extracted is rewritten. -/
theorem exists_rewrites_of_extract {body : String} {extraction : Extraction}
    (h : extract isDirective body = .ok extraction) :
    ∃ parts last, Rewrites isDirective 0 body.toList extraction parts last := by
  obtain ⟨tags, hscans⟩ := exists_scans isDirective body.toList
  have hextract := extractFrom_of_scans hscans 0
  rw [extract] at h
  cases hfirst : tags.findSome? Markup.malformed? with
  | some offence =>
    rw [hfirst, h] at hextract
    cases hextract
  | none =>
    rw [hfirst, h] at hextract
    obtain ⟨extraction', parts, last, heq, -, hrewrites⟩ := hextract
    cases heq
    exact ⟨parts, last, hrewrites⟩

/-- The directives of `body` are extracted exactly if none of the `tags` that its scan meets is
malformed. -/
theorem exists_extract_iff {body : String} (h : Scans isDirective body.toList tags) :
    (∃ extraction, extract isDirective body = .ok extraction) ↔
      ∀ tag ∈ tags, tag.malformed? = none := by
  have hextract := extractFrom_of_scans h 0
  rw [← List.findSome?_eq_none_iff, extract]
  cases hfirst : tags.findSome? Markup.malformed? with
  | some offence =>
    rw [hfirst] at hextract
    rw [hextract]
    constructor <;> nofun
  | none =>
    rw [hfirst] at hextract
    obtain ⟨extraction, -, -, hok, -⟩ := hextract
    exact iff_of_true ⟨extraction, hok⟩ rfl

/-- The occurrences that are extracted from `body` have the names of the `tags` that its scan
meets. -/
theorem map_name_of_extract {body : String} {extraction : Extraction}
    (h : Scans isDirective body.toList tags) (hok : extract isDirective body = .ok extraction) :
    extraction.occurrences.map Occurrence.name = tags.map fun tag => String.ofList tag.name := by
  have hextract := extractFrom_of_scans h 0
  rw [List.findSome?_eq_none_iff.2 ((exists_extract_iff h).1 ⟨extraction, hok⟩)] at hextract
  obtain ⟨extraction', parts, last, hok', rfl, hrewrites⟩ := hextract
  rw [← extract, hok] at hok'
  cases hok'
  rw [List.map_map, ← List.forall₂_eq_eq_eq, List.forall₂_map_left_iff, List.forall₂_map_right_iff]
  exact hrewrites.occurrences.flip.imp fun _ _ hyields => hyields.name

/-- A `body` is scanned in one way. If its directives are extracted, then text and template are put
together from the same parts, one for each directive tag that the scan meets: kept stretches with
tags in the text and with numbered placeholders in the template. Extraction fails exactly if one of
these tags has malformed arguments, and reports the first one. Without directives the template is
the text. -/
theorem extract_rewrites (isDirective : String → Bool) (body : String) :
    ∃ tags, (∀ tags', Scans isDirective body.toList tags' ↔ tags' = tags) ∧
      (∀ extraction, extract isDirective body = .ok extraction →
        ∃ parts last, parts.map Part.markup = tags ∧
          Rewrites isDirective 0 body.toList extraction parts last) ∧
      (∀ name offending, extract isDirective body = .error (name, offending) ↔
        ∃ before markup after, tags = before ++ markup :: after ∧
          (∀ tag ∈ before, ∃ items, Grammar.arguments tag.arguments = .ok items) ∧
            Grammar.arguments markup.arguments = .error offending ∧
              name = String.ofList markup.name) ∧
      ((∀ name, isDirective name = false) →
        extract isDirective body = .ok ⟨body.toList, []⟩) := by
  obtain ⟨tags, hscans⟩ := exists_scans isDirective body.toList
  have hextract := extractFrom_of_scans hscans 0
  refine ⟨tags, fun tags' => ?_, fun extraction hok => ?_, fun name offending => ?_,
    fun hnone => ?_⟩
  · constructor
    · exact fun h => h.unique hscans
    · rintro rfl
      exact hscans
  · rw [extract] at hok
    cases hfirst : tags.findSome? Markup.malformed? with
    | some offence =>
      rw [hfirst] at hextract
      rw [hextract] at hok
      cases hok
    | none =>
      rw [hfirst] at hextract
      obtain ⟨extraction', parts, last, hextract, htags, hrewrites⟩ := hextract
      rw [hextract] at hok
      cases hok
      exact ⟨parts, last, htags, hrewrites⟩
  · -- The first malformed tag is the one with none before it.
    have hsome : extract isDirective body = .error (name, offending) ↔
        tags.findSome? Markup.malformed? = some (name, offending) := by
      rw [extract]
      cases hfirst : tags.findSome? Markup.malformed? with
      | some offence =>
        rw [hfirst] at hextract
        rw [hextract, Except.error.injEq, Option.some.injEq]
      | none =>
        rw [hfirst] at hextract
        obtain ⟨extraction, parts, last, hextract, -⟩ := hextract
        rw [hextract]
        constructor <;> nofun
    rw [hsome, List.findSome?_eq_some_iff]
    constructor
    · rintro ⟨before, markup, after, htags, hmalformed, hbefore⟩
      obtain ⟨harguments, hname⟩ := Markup.malformed?_eq_some.1 hmalformed
      exact ⟨before, markup, after, htags,
        fun tag htag => Markup.malformed?_eq_none.1 (hbefore tag htag), harguments, hname⟩
    · rintro ⟨before, markup, after, htags, hbefore, harguments, hname⟩
      exact ⟨before, markup, after, htags, Markup.malformed?_eq_some.2 ⟨harguments, hname⟩,
        fun tag htag => Markup.malformed?_eq_none.2 (hbefore tag htag)⟩
  · -- No tag is met, so none is malformed.
    have hempty : tags = [] := by
      cases tags with
      | nil => rfl
      | cons markup tags =>
        have hdirective := hscans.directive_of_mem markup List.mem_cons_self
        rw [hnone] at hdirective
        cases hdirective
    subst hempty
    obtain ⟨extraction, parts, last, hextract, -, hrewrites⟩ := hextract
    rw [extract, hextract, hrewrites.eq_of_forall_not hnone]

end Results

/-- A delimiter in quotes does not end a tag, and a raw block is kept with what looks like a tag. -/
example :
    extract (· == "done")
        ("a\x7b%- done why='%\x7d' %\x7d" ++ "{% raw %}{% done %}{% endraw %}{%done-%}") =
      .ok ⟨"a{%- done 0 %}{% raw %}{% done %}{% endraw %}{%done-%}".toList,
        [⟨"done", [⟨"why", .literal (.string "%\x7d")⟩]⟩]⟩ := by
  decide +kernel

end Promptbook
