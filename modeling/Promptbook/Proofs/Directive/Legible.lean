import Mathlib.Data.List.Infix
import Promptbook.Directive.Rendering
import Promptbook.Directive.Registry
import Promptbook.Proofs.Directive.Extraction
import Promptbook.Proofs.Template.Places

/-!
# Bodies Without Directives

Directives are found by a scan of the text for tags, before the template is read. The scan knows of
raw blocks and comments, but not of outputs and their literals, and its names go on where those of
the template end. Where the text of a body is legible the scan sees the tags that the reader of
templates sees, and if none of them is named like a directive the body is rendered as if there were
no directives.

## Main definitions

* `Place.Legible`: the scan sees at a place what the reader of templates sees.

## Main results

* `scans_of_legible`: in a legible text the scan meets the tags of directives that the reader sees.
* `render_of_legible`: a legible body without directives is rendered as without a registry.
-/

namespace Promptbook

open Template (Place SpelledElement element elementsWith elements outside spell hiddenBy endOf
  tagOpening tagClosing isGap IsGap IsHyphen IsWordless TagAt)
open Text (Stops)

namespace Template

/-- The `block` that the tag at `p` starts is legible: the tag has no words, its name does not stand
right before the hyphen of its closing delimiter, and the name of its end tag does not occur in what
the block hides. -/
structure Place.StartsBlock (p : Place) (block : String) : Prop where
  /-- The tag consists of the name of `block` alone. -/
  wordless : p.here.isTag block = true
  /-- The name of `block` does not stand right before the hyphen of the closing delimiter. -/
  apart : ¬ (block.toList ++ '-' :: tagClosing.toList) <:+ p.here.trimmed
  /-- The name of the end tag of `block` does not occur in the elements that the block hides. -/
  unended : ¬ (endOf block).toList <:+: spell (hiddenBy block p.behind)

instance (p : Place) (block : String) : Decidable (p.StartsBlock block) :=
  decidable_of_iff (p.here.isTag block = true ∧
      ¬ (block.toList ++ '-' :: tagClosing.toList) <:+ p.here.trimmed ∧
      ¬ (endOf block).toList <:+: spell (hiddenBy block p.behind))
    ⟨fun h => ⟨h.1, h.2.1, h.2.2⟩, fun h => ⟨h.wordless, h.apart, h.unended⟩⟩

/-- The text at a place `p` outside of blocks is legible: an element can be read at `p`, no tag
seems to open inside of the element, and the block that it starts, if any, is legible. -/
structure Place.Legible (p : Place) : Prop where
  /-- The element at `p` can be read. -/
  valid : p.here.isValid = true
  /-- Behind the first brace of the element `{%` does not occur, not even in a literal. -/
  single : ¬ tagOpening.toList <:+: p.here.inner
  /-- If the element starts a block, the block is legible. -/
  block : ∀ block ∈ p.here.block?, p.StartsBlock block

instance (p : Place) : Decidable p.Legible :=
  decidable_of_iff (p.here.isValid = true ∧ ¬ tagOpening.toList <:+: p.here.inner ∧
      ∀ block ∈ p.here.block?, p.StartsBlock block)
    ⟨fun h => ⟨h.1, h.2.1, h.2.2⟩, fun h => ⟨h.valid, h.single, h.block⟩⟩

end Template

section Passing

variable {isDirective : String → Bool} {tags : List Markup} {u rest : List Char}

/-- A stretch `u` of a text in which nothing starts is passed by: the scan of `u ++ rest` meets the
`tags` of `rest`. -/
theorem Scans.append (h : Scans isDirective rest tags)
    (hplain : ∀ before c after, u = before ++ c :: after →
      IsPlain isDirective (c :: after ++ rest)) : Scans isDirective (u ++ rest) tags := by
  induction u with
  | nil => exact h
  | cons c u ih =>
    refine .plain (hplain [] c u rfl) (ih fun before d after hu => ?_)
    exact hplain (c :: before) d after (congrArg (c :: ·) hu)

/-- A stretch `u` of a text in which no end tag of `block` starts does not end the block. -/
theorem afterBlock_append {block : List Char}
    (hnone : ∀ before c after, u = before ++ c :: after →
      afterEndTag? block (c :: after ++ rest) = none) :
    afterBlock block (u ++ rest) = afterBlock block rest := by
  induction u with
  | nil => rfl
  | cons c u ih =>
    rw [List.cons_append, afterBlock, ← List.cons_append, hnone [] c u rfl]
    exact ih fun before d after hu => hnone (c :: before) d after (congrArg (c :: ·) hu)

/-- A `gap` of blanks is passed by. -/
theorem Scans.append_gap {gap : List Char} (h : Scans isDirective rest tags) (hgap : IsGap gap) :
    Scans isDirective (gap ++ rest) tags := by
  refine h.append fun before c after hsplit => isPlain_of_ne fun t heq => ?_
  have hc : isGap c = true := hgap c (by rw [hsplit]; simp)
  rw [(List.cons.inj heq).1] at hc
  exact absurd hc (by decide)

/-- No end tag starts with a blank `c`. -/
theorem afterEndTag?_of_isGap {block : List Char} {c : Char} (hc : isGap c = true) (s : List Char) :
    afterEndTag? block (c :: s) = none := by
  rcases Template.isGap_iff.1 hc with rfl | rfl | rfl <;> rfl

/-- A `gap` of blanks does not end a block. -/
theorem afterBlock_append_gap {block gap : List Char} (hgap : IsGap gap) :
    afterBlock block (gap ++ rest) = afterBlock block rest :=
  afterBlock_append fun before c after hsplit =>
    afterEndTag?_of_isGap (hgap c (by rw [hsplit]; simp)) _

/-- If `{%` does not occur in `u`, and `u` does not end with a brace, nothing starts in `u`,
whatever `rest` stands behind it. -/
theorem isPlain_of_unopened (hunopened : ¬ tagOpening.toList <:+: u)
    (hlast : u.getLast? ≠ some '\x7b') (before : List Char) (c : Char) (after : List Char)
    (hu : u = before ++ c :: after) : IsPlain isDirective (c :: after ++ rest) := by
  refine isPlain_of_ne fun t heq => ?_
  obtain ⟨rfl, htail⟩ := List.cons.inj heq
  -- The percent sign behind the brace would belong to `u`, unless `u` ended before it.
  cases after with
  | nil => exact hlast (by rw [hu, List.getLast?_concat])
  | cons d after =>
    obtain ⟨rfl, -⟩ := List.cons.inj htail
    exact hunopened ⟨before, after, by rw [hu]; simp [tagOpening]⟩

end Passing

section Places

variable {isDirective : String → Bool} {tags : List Markup} {rest : List Char}

/-- Where `{%` stands, the reader sees an element open. -/
theorem opens_tag (t : List Char) : Template.opens ('\x7b' :: '%' :: t) = true := by
  have hopening : (Template.opening? tagOpening ('\x7b' :: '%' :: t)).isSome = true := by
    unfold Template.opening?
    split
    · rfl
    · rfl
  rw [Template.opens, hopening, Bool.true_or]

/-- If the first brace of `e` stands behind a `gap` of blanks, `e.inner` is the text `u` behind that
brace. -/
theorem inner_eq {e : SpelledElement} {gap u : List Char} (hgap : IsGap gap)
    (hspelling : e.spelling = gap ++ '\x7b' :: u) : e.inner = u := by
  rw [SpelledElement.inner, hspelling,
    Text.dropWhile_append_of_stops hgap (Text.stops_cons.2 (by decide)), List.tail_cons]

/-- A text that ends with a closing brace and a `gap` of blanks does not end with an opening
brace. -/
theorem getLast?_of_closed {gap : List Char} (hgap : IsGap gap) (body : List Char) :
    (body ++ '\x7d' :: gap).getLast? ≠ some '\x7b' := by
  rw [List.getLast?_append_of_ne_nil _ (List.cons_ne_nil _ _), List.getLast?_cons]
  intro hlast
  cases hgapLast : gap.getLast? with
  | none =>
    rw [hgapLast] at hlast
    cases hlast
  | some c =>
    rw [hgapLast] at hlast
    cases hlast
    exact absurd (hgap _ (List.mem_of_getLast? hgapLast)) (by decide)

/-- An output or a tag `e` is passed by if the scan finds nothing where `e` opens. -/
theorem Scans.append_element {e : SpelledElement} {gap gap' body : List Char} {c : Char}
    (h : Scans isDirective rest tags) (hgap : IsGap gap) (hgap' : IsGap gap')
    (hspelling : e.spelling = gap ++ '\x7b' :: c :: (body ++ '\x7d' :: gap'))
    (hsingle : ¬ tagOpening.toList <:+: e.inner)
    (hopens : IsPlain isDirective ('\x7b' :: c :: (body ++ '\x7d' :: gap') ++ rest)) :
    Scans isDirective (e.spelling ++ rest) tags := by
  rw [inner_eq hgap hspelling] at hsingle
  rw [hspelling, List.append_assoc]
  refine Scans.append_gap (.plain hopens (h.append ?_)) hgap
  exact isPlain_of_unopened hsingle (getLast?_of_closed hgap' (c :: body))

/-- For ASCII characters, what may go on with a key may go on with a name of a template. -/
theorem continuesName_of_continuesKey {c : Char} (h : Grammar.continuesKey c = true)
    (hc : c.toNat < 128) : Template.continuesName c = true := by
  have hle : ¬ 128 ≤ c.toNat := by omega
  simpa [Grammar.continuesKey, Text.isAlphanumeric, Text.isAlphabetic, Text.isNumeric, hle,
    Template.continuesName, Char.isAlphanum] using h

theorem continuesKey_of_continuesName {c : Char} (h : Template.continuesName c = true) :
    Grammar.continuesKey c = true := by
  simp only [Template.continuesName, Bool.or_eq_true, beq_iff_eq] at h
  unfold Grammar.continuesKey
  rcases h with (h | rfl) | rfl
  · rw [Text.isAlphanumeric_of_isAlphanum h]
    rfl
  · decide
  · decide

/-- The `gap` before a name is skipped, and nothing of the name. -/
theorem dropBlank_name {gap : List Char} {name : String} (hgap : IsGap gap)
    (hname : Template.IsName name) (behind : List Char) :
    Grammar.dropBlank (gap ++ (name.toList ++ behind)) = name.toList ++ behind := by
  obtain ⟨⟨c, more, hcons, hc⟩, -⟩ := hname
  refine Grammar.dropBlank_append (fun d hd => Template.isPlainSpace_of_isGap (hgap d hd)) ?_
  rw [hcons, List.cons_append, Text.stops_cons, Bool.eq_false_iff]
  intro hspace
  have hkey := continuesKey_of_continuesName (Template.continuesName_of_startsName hc)
  rw [Grammar.continuesKey_of_isPlainSpace hspace] at hkey
  cases hkey

/-- If the scan reads a `markup` at the opening delimiter of a tag, it takes the delimiter with its
`hyphen`, and the `name` comes first in what it reads behind. -/
theorem eq_of_opening {hyphen gap behind behind' : List Char} {name : String} {markup : Markup}
    (hhyphen : IsHyphen hyphen) (hname : Template.IsName name)
    (hapart : hyphen = [] → (gap ++ name.toList).head? ≠ some '-')
    (hblank : Stops (· == '-') behind')
    (heq : '\x7b' :: '%' :: (hyphen ++ (gap ++ (name.toList ++ behind))) =
      markup.opening ++ behind') : gap ++ (name.toList ++ behind) = behind' := by
  have hhead : gap ++ name.toList ≠ [] := by
    obtain ⟨⟨c, more, hcons, -⟩, -⟩ := hname
    simp [hcons]
  unfold Markup.opening at heq
  rcases hhyphen with rfl | rfl
  · split at heq
    · -- Behind the delimiter there would be another hyphen.
      simp only [List.cons_append, List.nil_append, List.cons.injEq, true_and] at heq
      have hfirst := congrArg List.head? heq
      rw [← List.append_assoc, List.head?_append_of_ne_nil _ hhead] at hfirst
      exact absurd hfirst (hapart rfl)
    · simpa using heq
  · split at heq
    · simpa using heq
    · -- The hyphen is foreign to what the scan reads behind its delimiter.
      simp only [List.cons_append, List.nil_append, List.cons.injEq, true_and] at heq
      rw [← heq] at hblank
      exact absurd (Text.stops_cons.1 hblank) (by decide)

/-- Of the tag `name` the scan reads the name, or the name with the hyphen of the closing delimiter
behind it. -/
theorem name_of_read? {name : String} {s : List Char} (h : TagAt name s) {markup : Markup}
    (hread : Markup.read? ('\x7b' :: s) = some (markup, rest)) :
    markup.name = name.toList ∨ markup.name = name.toList ++ ['-'] := by
  obtain ⟨hyphen, gap, behind, hhyphen, hgap, hname, rfl, hapart, hends, hascii⟩ := h.opens
  obtain ⟨hkey, blanks, behind', hblanks, hs, hstops, -⟩ := Markup.read?_eq_some.1 hread
  obtain ⟨d, more, hcons, hd, -⟩ := id hkey
  -- Neither a blank nor the start of a key is a hyphen.
  have hblank : Stops (· == '-') (blanks ++ markup.name ++ behind') := by
    cases blanks with
    | nil =>
      rw [hcons]
      refine Text.stops_cons.2 (beq_eq_false_iff_ne.2 ?_)
      rintro rfl
      exact absurd hd (by decide)
    | cons c blanks =>
      refine Text.stops_cons.2 (beq_eq_false_iff_ne.2 ?_)
      rintro rfl
      exact absurd (hblanks _ List.mem_cons_self) (by decide)
  have hfirst : Stops Text.isPlainSpace (markup.name ++ behind') := by
    rw [hcons]
    exact Text.stops_cons.2 (Grammar.isPlainSpace_of_startsKey hd)
  -- Both names start behind the blanks, and the key goes on as far as it can.
  have hnames : name.toList ++ behind = markup.name ++ behind' := by
    rw [← dropBlank_name hgap hname behind, eq_of_opening hhyphen hname hapart hblank hs,
      List.append_assoc, Grammar.dropBlank_append hblanks hfirst]
  have htaken := congrArg (List.takeWhile Grammar.continuesKey) hnames
  rw [List.takeWhile_append_of_pos fun c hc => continuesKey_of_continuesName (hname.2 c hc),
    Text.takeWhile_append_of_stops (fun c hc => hkey.continuesKey hc) hstops] at htaken
  rw [← htaken]
  cases behind with
  | nil => exact .inl (List.append_nil _)
  | cons c behind =>
    by_cases hc : Grammar.continuesKey c = true
    · -- Only the hyphen of the closing delimiter goes on a key but not a name.
      obtain ⟨rfl, hcloses⟩ :=
        hends c behind rfl (continuesName_of_continuesKey hc (hascii c rfl))
      refine .inr (congrArg (name.toList ++ ·) ?_)
      rw [List.takeWhile_cons_of_pos hc]
      unfold Template.closesHere at hcloses
      split at hcloses
      · rw [List.takeWhile_cons_of_neg (by decide)]
      · rw [List.takeWhile_cons_of_neg (by decide)]
      · cases hcloses
    · rw [List.takeWhile_cons_of_neg hc]
      exact .inl (List.append_nil _)

end Places

section Blocks

variable {block : String} {c : Char} {t : List Char}

theorem isKey_of_isVerbatim {name : List Char} (h : isVerbatim name = true) :
    Grammar.IsKey name := by
  rcases eq_of_isVerbatim h with rfl | rfl
  · exact ⟨'r', "aw".toList, rfl, rfl, List.all_eq_true.1 rfl⟩
  · exact ⟨'c', "omment".toList, rfl, rfl, List.all_eq_true.1 rfl⟩

/-- Neither a raw block nor a comment has a name with a hyphen at the end. -/
theorem isVerbatim_concat (name : List Char) : isVerbatim (name ++ ['-']) = false := by
  rw [Bool.eq_false_iff]
  intro hverbatim
  have hlast : (name ++ ['-']).getLast? ≠ some '-' := by
    rcases eq_of_isVerbatim hverbatim with heq | heq <;> rw [heq] <;> decide
  exact hlast List.getLast?_concat

/-- With a `hyphen` or without, `{%` and `%}` are the delimiters that the scan knows. -/
theorem exists_trim {hyphen : List Char} (h : IsHyphen hyphen) :
    ∃ trim, '\x7b' :: '%' :: hyphen = Markup.openingText trim ∧
      hyphen ++ tagClosing.toList = Markup.closingText trim := by
  rcases h with rfl | rfl
  · exact ⟨false, rfl, rfl⟩
  · exact ⟨true, rfl, rfl⟩

/-- A `gap` of blanks before the closing delimiter is all the content of a tag without words. -/
theorem content?_gap {gap : List Char} (hgap : IsGap gap) (trim : Bool) (rest : List Char) :
    Markup.content? (gap ++ (Markup.closingText trim ++ rest)) = some (gap, trim, rest) := by
  induction gap with
  | nil => exact Markup.content?_closingText trim rest
  | cons c gap ih =>
    obtain ⟨hc, hgap⟩ := List.forall_mem_cons.1 hgap
    have hclosing : Markup.closing? (c :: (gap ++ (Markup.closingText trim ++ rest))) = none := by
      rcases Template.isGap_iff.1 hc with rfl | rfl | rfl <;> rfl
    rw [List.cons_append, Markup.content?_cons
      (Grammar.quoted?_cons_of_not_isQuote (Template.not_isQuote_of_isGap hc)) hclosing, ih hgap]
    rfl

/-- A `tag` without words is read as one named `block`, and to its end, if the name does not stand
right before the hyphen of the closing delimiter. -/
theorem exists_read?_of_isWordless {tag : List Char} (hverbatim : isVerbatim block.toList = true)
    (h : IsWordless block tag) (hapart : ¬ (block.toList ++ '-' :: tagClosing.toList) <:+ tag) :
    ∃ markup, markup.name = block.toList ∧
      ∀ rest, Markup.read? (tag ++ rest) = some (markup, rest) := by
  obtain ⟨hyphen, gap, gap', hyphen', hhyphen, hgap, hgap', hhyphen', rfl⟩ := h
  obtain ⟨trimBefore, hopening, -⟩ := exists_trim hhyphen
  obtain ⟨trimAfter, -, hclosing⟩ := exists_trim hhyphen'
  refine ⟨⟨trimBefore, block.toList, gap', trimAfter⟩, rfl, fun rest => ?_⟩
  have hblanks : ∀ d ∈ gap, Text.isPlainSpace d = true :=
    fun d hd => Template.isPlainSpace_of_isGap (hgap d hd)
  refine Markup.read?_eq_some.2 ⟨isKey_of_isVerbatim hverbatim, gap,
    gap' ++ (Markup.closingText trimAfter ++ rest), hblanks, ?_, ?_,
    content?_gap hgap' trimAfter rest⟩
  · rw [Markup.opening_eq, ← hopening, ← hclosing]
    simp
  · -- The name is followed by a blank or by the percent sign.
    cases gap' with
    | cons d gap' =>
      exact Text.stops_cons.2 (Grammar.continuesKey_of_isPlainSpace
        (Template.isPlainSpace_of_isGap (hgap' d List.mem_cons_self)))
    | nil =>
      rcases hhyphen' with rfl | rfl
      · rw [← hclosing]
        exact Text.stops_cons.2 (by decide)
      · exact absurd ⟨'\x7b' :: '%' :: (hyphen ++ gap), by simp⟩ hapart

/-- An end tag without words is an end tag of `block` for the scan. -/
theorem isEndTag_of_isWordless {tag : List Char} (h : IsWordless (endOf block) tag) :
    IsEndTag block.toList tag := by
  obtain ⟨hyphen, gap, gap', hyphen', hhyphen, hgap, hgap', hhyphen', rfl⟩ := h
  obtain ⟨trimBefore, hopening, -⟩ := exists_trim hhyphen
  obtain ⟨trimAfter, -, hclosing⟩ := exists_trim hhyphen'
  have hspace {gap : List Char} (hgap : IsGap gap) : ∀ c ∈ gap, Text.isSpace c = true :=
    fun d hd => Text.isSpace_of_isPlainSpace (Template.isPlainSpace_of_isGap (hgap d hd))
  refine ⟨trimBefore, trimAfter, gap, gap', hspace hgap, hspace hgap', ?_⟩
  rw [← hopening, ← hclosing, endOf, String.toList_append]
  simp

/-- A `word` that stands at the start of a text, behind the first brace and before any other, occurs
in `x` if `x` is what precedes the next brace and the blanks in front of it. -/
theorem occurs_of_append_eq {x gap y lead word k : List Char} (hx : x ≠ []) (hgap : IsGap gap)
    (heq : x ++ (gap ++ '\x7b' :: y) = '\x7b' :: (lead ++ word ++ k))
    (hbrace : '\x7b' ∉ lead ++ word) (hlast : ∃ d ∈ word.getLast?, isGap d = false) :
    word <:+: x := by
  obtain ⟨d, hd, hdGap⟩ := hlast
  obtain ⟨first, x, rfl⟩ := List.exists_cons_of_ne_nil hx
  obtain ⟨rfl, hrest⟩ := List.cons.inj heq
  rcases List.append_eq_append_iff.1 hrest with ⟨a, hwhole, htail⟩ | ⟨a, rfl, -⟩
  · -- The part of the word behind `x` would hold the next brace or end with a blank.
    have hnil : a = [] := by
      by_contra hne
      have hmem : d ∈ a := by
        have hlast := congrArg List.getLast? hwhole
        rw [List.getLast?_append_of_ne_nil _ hne, List.getLast?_append, hd] at hlast
        exact List.mem_of_getLast? hlast.symm
      rcases List.append_eq_append_iff.1 htail with ⟨b, hcut, hbehind⟩ | ⟨b, hcut, -⟩
      · cases b with
        | nil =>
          rw [hcut, List.append_nil] at hmem
          rw [hgap d hmem] at hdGap
          cases hdGap
        | cons e b =>
          obtain ⟨rfl, -⟩ := List.cons.inj hbehind
          exact hbrace (by rw [hwhole, hcut]; simp)
      · rw [hgap d (by rw [hcut]; exact List.mem_append_left b hmem)] at hdGap
        cases hdGap
    rw [hnil, List.append_nil] at hwhole
    exact ⟨'\x7b' :: lead, [], by rw [← hwhole]; simp⟩
  · exact ⟨'\x7b' :: lead, a, by simp⟩

/-- In an end tag of the block `name`, `end` and `name` stand behind the first brace and before any
other. -/
theorem IsEndTag.exists_eq {name tag : List Char} (h : IsEndTag name tag) :
    ∃ lead behind, '\x7b' ∉ lead ∧ tag = '\x7b' :: (lead ++ ("end".toList ++ name) ++ behind) := by
  obtain ⟨trimBefore, trimAfter, before, after, hbefore, hafter, rfl⟩ := h
  have hspace : '\x7b' ∉ before := fun hmem => absurd (hbefore _ hmem) (by decide)
  cases trimBefore with
  | true =>
    exact ⟨'%' :: '-' :: before, after ++ Markup.closingText trimAfter, by simp [hspace],
      by simp [Markup.openingText]⟩
  | false =>
    exact ⟨'%' :: before, after ++ Markup.closingText trimAfter, by simp [hspace],
      by simp [Markup.openingText]⟩

/-- The name of the end tag of the block `name` has no brace in it and no blank at its end. -/
theorem endName_of_isVerbatim {name : List Char} (h : isVerbatim name = true) :
    '\x7b' ∉ "end".toList ++ name ∧
      ∃ d ∈ ("end".toList ++ name).getLast?, isGap d = false := by
  rcases eq_of_isVerbatim h with rfl | rfl
  · exact ⟨by decide, 'w', rfl, rfl⟩
  · exact ⟨by decide, 't', rfl, rfl⟩

section Ends

variable {name hidden gap tag after : List Char}

/-- A block that hides `hidden` ends at its end tag `tag` if the name of the end tag does not occur
in `hidden`. -/
theorem blockEnds_of_endTag (hverbatim : isVerbatim name = true) (hgap : IsGap gap)
    (htag : IsEndTag name tag) (hnone : ¬ ("end".toList ++ name) <:+: hidden) :
    BlockEnds name (hidden ++ (gap ++ (tag ++ after))) after := by
  obtain ⟨hbrace, hlast⟩ := endName_of_isVerbatim hverbatim
  have hends : afterBlock name (tag ++ after) = after := by
    obtain ⟨lead, behind, -, htag'⟩ := htag.exists_eq
    have hfound : afterEndTag? name (tag ++ after) = some after :=
      afterEndTag?_eq_some.2 ⟨tag, htag, rfl⟩
    rw [htag', List.cons_append] at hfound ⊢
    rw [afterBlock, hfound]
  rw [blockEnds_iff, afterBlock_append, afterBlock_append_gap hgap, hends]
  intro before c behind hsplit
  rw [Option.eq_none_iff_forall_ne_some]
  intro rest hfound
  obtain ⟨tag', htag', heq⟩ := afterEndTag?_eq_some.1 hfound
  obtain ⟨lead, k, -, rfl⟩ := htag.exists_eq
  obtain ⟨lead', k', hlead', rfl⟩ := htag'.exists_eq
  -- An earlier end tag would have its name in what is hidden.
  have heq' : c :: behind ++ (gap ++ '\x7b' :: (lead ++ ("end".toList ++ name) ++ k ++ after)) =
      '\x7b' :: (lead' ++ ("end".toList ++ name) ++ (k' ++ rest)) := by
    simpa using heq
  have hbrace' : '\x7b' ∉ lead' ++ ("end".toList ++ name) :=
    fun hmem => (List.mem_append.1 hmem).elim hlead' hbrace
  obtain ⟨front, back, hword⟩ :=
    occurs_of_append_eq (List.cons_ne_nil c behind) hgap heq' hbrace' hlast
  exact hnone ⟨before ++ front, back, by rw [hsplit, ← hword]; simp⟩

/-- A block goes on to the end of the text if the name of its end tag does not occur there. -/
theorem blockEnds_of_unended (hnone : ¬ ("end".toList ++ name) <:+: hidden) :
    BlockEnds name hidden [] := by
  refine .inr ⟨rfl, fun before tag after htag hs => hnone ?_⟩
  obtain ⟨lead, behind, -, rfl⟩ := htag.exists_eq
  exact ⟨before ++ '\x7b' :: lead, behind ++ after, by rw [hs]; simp⟩

/-- A `gap` before what a block hides belongs to the block. -/
theorem BlockEnds.append_gap (h : BlockEnds name hidden after) (hgap : IsGap gap) :
    BlockEnds name (gap ++ hidden) after := by
  rw [blockEnds_iff, afterBlock_append_gap hgap]
  exact blockEnds_iff.1 h

end Ends

end Blocks

section Results

variable {isDirective : String → Bool} {c : Char} {t : List Char} {es : List SpelledElement}
  {tags : List Markup}

theorem isVerbatim_of_block? {e : SpelledElement} {block : String} (h : e.block? = some block) :
    isVerbatim block.toList = true :=
  (Option.filter_eq_some_iff.1 h).2

/-- A legible element that starts no block is passed by, unless its tag name is that of a directive,
with or without a hyphen behind it. -/
theorem Scans.append_place (h : Scans isDirective (element c t).2 tags)
    (hlegible : Place.Legible ⟨(element c t).1, es⟩) (hblock : (element c t).1.block? = none)
    (hother : ∀ name ∈ (element c t).1.tagName?,
      isDirective name = false ∧ isDirective (name ++ "-") = false) :
    Scans isDirective (c :: t) tags := by
  rw [← Template.element_append c t]
  cases helement : (element c t).1.element with
  | text =>
    -- Where a tag opens the text would have ended.
    refine h.append fun before d after hsplit => isPlain_of_ne fun s heq => ?_
    have hopens := Template.not_opens_of_text helement hsplit
    rw [heq, opens_tag] at hopens
    cases hopens
  | output written =>
    obtain ⟨gap, body, gap', hgap, hgap', hspelling⟩ := Template.exists_spelling_of_output helement
    refine h.append_element hgap hgap' hspelling hlegible.single (isPlain_of_ne fun s heq => ?_)
    -- An output opens with two braces.
    cases (List.cons.inj (List.cons.inj heq).2).1
  | tag name words =>
    obtain ⟨gap, body, gap', hgap, hgap', hspelling, hat⟩ := Template.tagAt_of_element helement
    have hname : (element c t).1.tagName? = some name := by
      rw [SpelledElement.tagName?, helement]
    obtain ⟨hplain, hhyphen⟩ := hother name hname
    have hverbatim : isVerbatim name.toList = false := by
      rw [SpelledElement.block?, hname, Option.filter_eq_none_iff] at hblock
      simpa using hblock name rfl
    refine h.append_element hgap hgap' hspelling hlegible.single fun markup rest hread => ?_
    -- With the hyphen of its delimiter the name is none of a block, and none of a directive.
    rcases name_of_read? hat hread with heq | heq
    · rw [heq, String.ofList_toList]
      exact ⟨hverbatim, hplain⟩
    · rw [heq, isVerbatim_concat, String.ofList_append, String.ofList_toList]
      exact ⟨rfl, hhyphen⟩
  | invalid =>
    have hvalid := hlegible.valid
    simp [SpelledElement.isValid, helement] at hvalid

/-- A legible `block` is passed by as a whole, up to the text `after` its end tag. -/
theorem Scans.append_block {block : String} {after : List Char} (h : Scans isDirective after tags)
    (hverbatim : isVerbatim block.toList = true)
    (hstarts : Place.StartsBlock ⟨(element c t).1, es⟩ block)
    (hends : BlockEnds block.toList (element c t).2 after) : Scans isDirective (c :: t) tags := by
  obtain ⟨gap, tag, gap', hgap, hgap', hspelling, hwordless⟩ :=
    Template.exists_wordless_of_isTag hstarts.wordless
  have hapart : ¬ (block.toList ++ '-' :: tagClosing.toList) <:+ tag := by
    refine fun hsuffix => hstarts.apart ?_
    rw [hwordless.trimmed_eq hgap' hspelling]
    exact hsuffix.trans (List.suffix_append gap tag)
  obtain ⟨markup, hname, hread⟩ := exists_read?_of_isWordless hverbatim hwordless hapart
  rw [← Template.element_append c t, hspelling, List.append_assoc, List.append_assoc]
  refine Scans.append_gap (.block (hread _) (by rw [hname]; exact hverbatim) ?_ h) hgap
  rw [hname]
  exact hends.append_gap hgap'

/-- A legible `block` ends, for the scan, where the elements that it hides end for the reader. A
`gap` of blanks behind the end tag may be left over. -/
theorem exists_blockEnds {block : String} {fuel : Nat} {s : List Char}
    (hverbatim : isVerbatim block.toList = true) (hfuel : s.length ≤ fuel)
    (hunended : ¬ (endOf block).toList <:+: spell (hiddenBy block (elementsWith fuel s))) :
    ∃ gap rest fuel', IsGap gap ∧ BlockEnds block.toList s (gap ++ rest) ∧
      rest.length ≤ s.length ∧ rest.length ≤ fuel' ∧
        outside (some block) (elementsWith fuel s) = outside none (elementsWith fuel' rest) := by
  have hnone : ¬ ("end".toList ++ block.toList) <:+:
      spell (hiddenBy block (elementsWith fuel s)) := by
    rw [← String.toList_append]
    exact hunended
  rcases Template.hiddenBy_cases block (elementsWith fuel s) with
    ⟨hall, houtside⟩ | ⟨e, more, hcut, hends, houtside⟩
  · -- Everything is hidden.
    obtain ⟨fuel', rest, hfuel', hnil, hs⟩ :=
      Template.exists_of_elementsWith_append (hall.trans (List.append_nil _).symm) hfuel
    obtain rfl := Template.eq_nil_of_elementsWith hnil hfuel'
    refine ⟨[], [], 0, nofun, ?_, Nat.zero_le _, Nat.le_refl _, houtside⟩
    rw [List.append_nil] at hs
    rw [← hs] at hnone
    exact blockEnds_of_unended hnone
  · -- The text before the end tag is what is hidden.
    obtain ⟨fuel', rest, hfuel', hmore, hs⟩ := Template.exists_of_elementsWith_append hcut hfuel
    obtain ⟨c, t, fuel'', rfl, rfl, hfuel'', rfl⟩ :=
      Template.exists_of_elementsWith_cons hmore hfuel'
    obtain ⟨gap, tag, gap', hgap, hgap', hspelling, hwordless⟩ :=
      Template.exists_wordless_of_isTag hends
    refine ⟨gap', (element c t).2, fuel'', hgap', ?_, ?_, hfuel'', houtside⟩
    · rw [hs, ← Template.element_append c t, hspelling, List.append_assoc, List.append_assoc]
      exact blockEnds_of_endTag hverbatim hgap (isEndTag_of_isWordless hwordless) hnone
    · have hshorter := Template.length_element_lt c t
      have hlength := congrArg List.length hs
      rw [List.length_append] at hlength
      omega

/-- In a legible text `s` the scan meets no directive if no tag that the reader sees outside of
blocks is named like one, with or without a hyphen behind its name. -/
theorem scans_of_legible {fuel : Nat} {s : List Char} (hfuel : s.length ≤ fuel)
    (hlegible : ∀ p ∈ outside none (elementsWith fuel s), p.Legible)
    (hother : ∀ p ∈ outside none (elementsWith fuel s), ∀ name ∈ p.here.tagName?,
      isDirective name = false ∧ isDirective (name ++ "-") = false) :
    Scans isDirective s [] := by
  -- The induction is on the length of the text, since a block takes many elements at once: an
  -- element is passed by, or a block with all that it hides, and a shorter text is left.
  induction hlength : s.length using Nat.strongRecOn generalizing s fuel with
  | ind n ih =>
    subst hlength
    cases hes : elementsWith fuel s with
    | nil =>
      rw [Template.eq_nil_of_elementsWith hes hfuel]
      exact .finished
    | cons e es =>
      obtain ⟨c, t, fuel', rfl, rfl, hfuel', hmore⟩ :=
        Template.exists_of_elementsWith_cons hes hfuel
      rw [hes, outside] at hlegible hother
      -- The first place is outside, since the text starts outside of all blocks.
      obtain ⟨hhere, hlegible⟩ := List.forall_mem_cons.1 hlegible
      obtain ⟨hname, hother⟩ := List.forall_mem_cons.1 hother
      have hshorter := Template.length_element_lt c t
      cases hblock : (element c t).1.block? with
      | none =>
        rw [hblock, ← hmore] at hlegible hother
        exact (ih _ hshorter hfuel' hlegible hother rfl).append_place hhere hblock hname
      | some block =>
        rw [hblock] at hlegible hother
        have hverbatim := isVerbatim_of_block? hblock
        have hstarts := hhere.block block hblock
        subst hmore
        obtain ⟨gap, rest, fuel'', hgap, hends, hlength, hfuel'', houtside⟩ :=
          exists_blockEnds hverbatim hfuel' hstarts.unended
        rw [houtside] at hlegible hother
        have hscans := ih _ (Nat.lt_of_le_of_lt hlength hshorter) hfuel'' hlegible hother rfl
        exact (hscans.append_gap hgap).append_block hverbatim hstarts hends

variable {ω : Type}

/-- If no directive is extracted from `body` with either registry, the two prepare it to the
same. -/
theorem prepare_eq_of_extract {registry registry' : Registry ω} {body : String}
    {template : List Char} (h : extract registry.has body = .ok ⟨template, []⟩)
    (h' : extract registry'.has body = .ok ⟨template, []⟩) (inputs : Variables) :
    prepare registry inputs body = prepare registry' inputs body := by
  unfold prepare
  rw [h, h']
  rfl

/-- A legible `body` is rendered as without any directives, and nothing in it is replaced, if no tag
that the reader sees outside of raw blocks and comments is named like a directive in `registry`, not
even with a hyphen behind its name. -/
theorem render_of_legible (registry : Registry ω) (body : String)
    (hlegible : ∀ p ∈ outside none (elements body.toList), p.Legible)
    (hother : ∀ p ∈ outside none (elements body.toList), ∀ name ∈ p.here.tagName?,
      registry.has name = false ∧ registry.has (name ++ "-") = false) :
    extract registry.has body = .ok ⟨body.toList, []⟩ ∧
      ∀ (step : String) (inputs : Variables) (world : ω),
        render registry step inputs body world = render [] step inputs body world := by
  have hextract := extractFrom_of_scans_nil
    (scans_of_legible (Nat.le_refl _) hlegible hother) 0
  have hempty := extractFrom_of_scans_nil
    (@scans_of_legible (Fields.has ([] : Registry ω)) _ _ (Nat.le_refl _) hlegible
      fun _ _ _ _ => ⟨rfl, rfl⟩) 0
  refine ⟨hextract, fun step inputs world => ?_⟩
  unfold render
  rw [prepare_eq_of_extract hextract hempty]

/-- A body with what looks like directives in a raw block, also where no tag can be read, with an
output in front of it and a loop behind it. -/
def legibleBody : String :=
  "{{- topic | upcase -}} {%- raw %}" ++
    "\x7b\x7b '\x7b% done %\x7d' \x7d\x7d \x7b% done @ %\x7d" ++
      "{%endraw-%} {% for i in (1..2)-%}{{ i }}{%- endfor -%}"

/-- The body `legibleBody` is legible, and is rendered the same with the directives that are always
there as without any. -/
theorem render_legibleBody :
    (∀ p ∈ outside none (elements legibleBody.toList), p.Legible) ∧
      render (Registry.builtins (none : Option (Retriever Unit))) "greeting" [] legibleBody () =
        render [] "greeting" [] legibleBody () := by
  have hlegible : ∀ p ∈ outside none (elements legibleBody.toList), p.Legible := by
    decide +kernel
  have hother : ∀ p ∈ outside none (elements legibleBody.toList), ∀ name ∈ p.here.tagName?,
      (Registry.builtins (none : Option (Retriever Unit))).has name = false ∧
        (Registry.builtins (none : Option (Retriever Unit))).has (name ++ "-") = false := by
    decide +kernel
  exact ⟨hlegible, (render_of_legible _ _ hlegible hother).2 _ _ _⟩

/-- No tag of `body` outside of raw blocks and comments is named like one of the directives that are
always there, and yet `body` is rendered differently with them than without. -/
def Misleads (body : String) : Prop :=
  (∀ p ∈ outside none (elements body.toList), ∀ name ∈ p.here.tagName?,
    (Registry.builtins (none : Option (Retriever Unit))).has name = false) ∧
  (render (Registry.builtins (none : Option (Retriever Unit))) "greeting" [] body ()).1.result ≠
    (render ([] : Registry Unit) "greeting" [] body ()).1.result

instance (body : String) : Decidable (Misleads body) :=
  inferInstanceAs (Decidable (_ ∧ _ ≠ _))

/-- The scan takes a text for a directive in the literal of an output, in that of an assignment, in
a raw block whose name it reads as `raw-`, and in a raw block that it ends inside of a literal. -/
theorem misleads_of_literal_or_hyphen :
    Misleads "\x7b\x7b '\x7b% done %\x7d' \x7d\x7d" ∧
      Misleads "\x7b% assign x = '\x7b% done %\x7d' %\x7d{{ x }}" ∧
      Misleads "{% raw-%}{% done %}{% endraw %}" ∧
      Misleads "{% raw %}\x7b\x7b '\x7b% endraw %\x7d' \x7d\x7d{% done %}{% endraw %}" := by
  decide +kernel

end Results

end Promptbook
