import Promptbook.Proofs.Directive.Brace
import Promptbook.Proofs.Directive.Extraction

/-!
# A Line Behind a Text

What a scan makes of a text when a line is written behind it that starts with a brace and has no
quotes. The tags and the blocks that are complete stay as they are. Only what is not complete at the
end of the text can be affected: a tag that has no closing delimiter yet takes one from the line,
and a block that has no end tag hides the line.

## Main definitions

* `Markup.Unfinished`: a tag whose closing delimiter is missing.
* `OpensBlock`: a block starts that is not closed in the rest of the text.
* `LeavesOpen`: the scan of a text gets to such a block.

## Main results

* `Markup.read?_append_line`: what is read in front of a line is read without it, or is unfinished.
* `BlockEnds.append_line`: a block that is closed ends where it did.
* `Scans.append_line`: if no block is left open and no tag is malformed, the scan meets the tags of
  the text and behind them those of the line.
-/

namespace Promptbook

open Text (Stops)
open Grammar (Barrier IsQuote)

/-- If a text is cut into `u` and `v`, and the character `c` occurs in it but not in `u`, then `c`
and the text before it end in `v`. -/
theorem exists_of_append_cons_eq_append {α : Type} {s t u v : List α} {c : α}
    (h : s ++ c :: t = u ++ v) (hc : c ∉ u) : ∃ w, s = u ++ w ∧ v = w ++ c :: t := by
  rcases List.append_eq_append_iff.1 h with ⟨w, rfl, hv⟩ | ⟨w, hs, hv⟩
  · cases w with
    | nil => exact ⟨[], by simp, by simpa using hv.symm⟩
    | cons d w =>
      obtain ⟨rfl, -⟩ := List.cons.inj hv
      exact absurd (List.mem_append_right _ (.head _)) hc
  · exact ⟨w, hs, hv⟩

/-- If the `c` stands behind a line break, and `u` does not end with a line break, the break is not
in `u` either. -/
theorem exists_of_append_break {s t u v : List Char} {c : Char}
    (h : s ++ '\n' :: c :: t = u ++ v) (hc : c ∉ u) (hlast : u.getLast? ≠ some '\n') :
    ∃ w, s = u ++ w ∧ v = w ++ '\n' :: c :: t := by
  have hbreak : (s ++ ['\n']) ++ c :: t = u ++ v := by
    rw [← h]
    simp
  obtain ⟨w, hs, rfl⟩ := exists_of_append_cons_eq_append hbreak hc
  rcases List.eq_nil_or_concat w with rfl | ⟨w, d, rfl⟩
  · rw [List.append_nil] at hs
    rw [← hs, List.getLast?_concat] at hlast
    exact absurd rfl hlast
  · rw [List.concat_eq_append, ← List.append_assoc] at hs
    obtain ⟨rfl, hd⟩ := List.append_inj' hs rfl
    obtain rfl := (List.cons.inj hd).1
    exact ⟨w, rfl, by simp⟩

namespace Markup

variable {s call : List Char}

/-- No line break stands in a closing delimiter. -/
theorem break_not_mem_closingText (trim : Bool) : '\n' ∉ closingText trim := by
  cases trim <;> decide

/-- A closing delimiter ends before a character `c` that occurs in none, so it is read from `s`
alone. -/
theorem closing?_append_of_not_mem {c : Char} (hc : ∀ trim, c ∉ closingText trim)
    (t : List Char) :
    closing? (s ++ c :: t) = (closing? s).map fun (trim, rest) => (trim, rest ++ c :: t) := by
  cases hs : closing? s with
  | some found =>
    obtain ⟨trim, rest⟩ := found
    refine closing?_eq_some.2 ?_
    rw [closing?_eq_some.1 hs, List.append_assoc]
  | none =>
    rw [Option.map_none, Option.eq_none_iff_forall_ne_some]
    rintro ⟨trim, rest⟩ hfound
    obtain ⟨w, hw, -⟩ := exists_of_append_cons_eq_append (closing?_eq_some.1 hfound) (hc trim)
    rw [closing?_eq_some.2 hw] at hs
    cases hs

/-- A closing delimiter ends before the line `call`, so it is read from `s` alone. -/
theorem closing?_append_line :
    closing? (s ++ '\n' :: call) =
      (closing? s).map fun (trim, rest) => (trim, rest ++ '\n' :: call) :=
  closing?_append_of_not_mem break_not_mem_closingText call

/-- A text in quotes ends before a text `t` without quotes, so it is read from `s` alone. -/
theorem quoted?_append_of_unquoted {t : List Char} (ht : ∀ c ∈ t, ¬ IsQuote c) :
    Grammar.quoted? (s ++ t) =
      (Grammar.quoted? s).map fun (text, rest) => (text, rest ++ t) := by
  cases hs : Grammar.quoted? s with
  | some found =>
    obtain ⟨text, rest⟩ := found
    obtain ⟨quote, hquote, hmem, rfl⟩ := Grammar.quoted?_eq_some.1 hs
    exact Grammar.quoted?_eq_some.2 ⟨quote, hquote, hmem, by simp⟩
  | none =>
    rw [Option.map_none, Option.eq_none_iff_forall_ne_some]
    rintro ⟨text, rest⟩ hfound
    obtain ⟨quote, hquote, hmem, hsplit⟩ := Grammar.quoted?_eq_some.1 hfound
    have hwhole : s ++ t = quote :: text ++ [quote] ++ rest := by
      rw [hsplit]
      simp
    obtain ⟨w, rfl, -⟩ :=
      exists_of_append_eq_concat_append hwhole fun hmem' => ht quote hmem' hquote
    have hquoted : Grammar.quoted? (quote :: text ++ [quote] ++ w) = some (text, w) :=
      Grammar.quoted?_eq_some.2 ⟨quote, hquote, hmem, by simp⟩
    rw [hquoted] at hs
    cases hs

/-- Content that is read from `s` ends before the line `call`, or it goes on into the line. -/
theorem content?_append_line (hcall : ∀ c ∈ call, ¬ IsQuote c) :
    content? (s ++ '\n' :: call) =
      match content? s with
      | some (text, trim, rest) => some (text, trim, rest ++ '\n' :: call)
      | none => (content? ('\n' :: call)).map fun (text, end_) => (s ++ text, end_) := by
  have hline : ∀ c ∈ '\n' :: call, ¬ IsQuote c := by
    rw [List.forall_mem_cons]
    exact ⟨by simp [IsQuote], hcall⟩
  induction s using content?.induct with
  | case1 s inner behind hquoted ih =>
    -- Quotes that are closed in the text are closed before the line.
    obtain ⟨quote, hquote, hmem, rfl⟩ := Grammar.quoted?_eq_some.1 hquoted
    have hline' : quote :: (inner ++ quote :: behind) ++ '\n' :: call =
        quote :: (inner ++ quote :: (behind ++ '\n' :: call)) := by simp
    rw [hline', Markup.content?_quoted hquote hmem, Markup.content?_quoted hquote hmem, ih]
    cases content? behind with
    | some found => rfl
    | none => cases content? ('\n' :: call) <;> simp
  | case2 s hquoted trim rest hclosing =>
    obtain rfl := closing?_eq_some.1 hclosing
    rw [List.append_assoc, content?_closingText, content?_closingText]
  | case3 hquoted hclosing =>
    rw [content?_nil, List.nil_append]
    cases content? ('\n' :: call) <;> rfl
  | case4 c tail hquoted hclosing ih =>
    -- The line has no quote that could close one of the text, and it starts no delimiter earlier.
    have hquoted' : Grammar.quoted? (c :: (tail ++ '\n' :: call)) = none := by
      rw [← List.cons_append, quoted?_append_of_unquoted hline, hquoted]
      rfl
    have hclosing' : closing? (c :: (tail ++ '\n' :: call)) = none := by
      rw [← List.cons_append, closing?_append_line, hclosing]
      rfl
    rw [List.cons_append, content?_cons hquoted' hclosing', content?_cons hquoted hclosing, ih]
    cases content? tail with
    | some found => rfl
    | none => cases content? ('\n' :: call) <;> rfl

/-- What follows a tag is an end of the text `s`. -/
theorem isSuffix_of_read? {markup : Markup} {rest : List Char}
    (h : read? s = some (markup, rest)) : rest <:+ s := by
  obtain ⟨blanks, -, hs, -⟩ := exists_spelling h
  exact ⟨_, hs.symm⟩

/-- At the start of `s` stands a tag with this `name` whose closing delimiter is missing. -/
def Unfinished (name s : List Char) : Prop :=
  ∃ trim blanks behind, (∀ c ∈ blanks, Text.isPlainSpace c = true) ∧
    s = openingText trim ++ (blanks ++ name ++ behind) ∧ Stops Grammar.continuesKey behind ∧
      content? behind = none

/-- The line break before `call` does not go on with the name of a tag. -/
theorem stops_append_line {behind : List Char} :
    Stops Grammar.continuesKey (behind ++ '\n' :: call) ↔ Stops Grammar.continuesKey behind := by
  cases behind with
  | nil => exact iff_of_true (Text.stops_cons.2 (by decide)) (Text.stops_nil _)
  | cons c behind => rw [List.cons_append, Text.stops_cons, Text.stops_cons]

/-- A complete tag is read from `s` as it is without the line `call` behind. -/
theorem read?_append_line_of_some {markup : Markup} {rest : List Char} (hcall : Barrier call)
    (h : read? s = some (markup, rest)) :
    read? (s ++ '\n' :: call) = some (markup, rest ++ '\n' :: call) := by
  obtain ⟨hname, blanks, behind, hblanks, rfl, hstops, hcontent⟩ := read?_eq_some.1 h
  refine read?_eq_some.2 ⟨hname, blanks, behind ++ '\n' :: call, hblanks, by simp,
    stops_append_line.2 hstops, ?_⟩
  rw [content?_append_line hcall.unquoted, hcontent]

/-- If content goes on from the line break into the line `call`, it ends with a text that has the
brace of the line. -/
theorem exists_barrier_of_content? {text rest : List Char} {trim : Bool} (hcall : Barrier call)
    (h : content? ('\n' :: call) = some (text, trim, rest)) :
    ∃ t, Barrier t ∧ t <:+ text := by
  obtain ⟨u, rfl⟩ := hcall.brace
  have hline := (content?_eq_some h).1
  -- Neither the line break nor the brace is the start of the closing delimiter.
  cases text with
  | nil => cases trim <;> cases hline
  | cons c text =>
    obtain ⟨rfl, hrest⟩ := List.cons.inj hline
    cases text with
    | nil => cases trim <;> cases hrest
    | cons d text =>
      obtain ⟨rfl, hu⟩ := List.cons.inj hrest
      refine ⟨'\x7b' :: text, ⟨⟨text, rfl⟩, fun c hc => hcall.unquoted c ?_⟩, List.suffix_cons _ _⟩
      rw [hu]
      exact List.mem_append_left _ (List.mem_append_left _ hc)

/-- What is read as a tag in front of the line `call` is read without it as well, or the tag is
unfinished and its arguments reach into the line. -/
theorem read?_append_line {markup : Markup} {rest : List Char} (hcall : Barrier call)
    (h : read? (s ++ '\n' :: call) = some (markup, rest)) :
    (∃ rest', read? s = some (markup, rest')) ∨
      Unfinished markup.name s ∧ ∃ t, Barrier t ∧ t <:+ markup.arguments := by
  obtain ⟨hname, blanks, behind, hblanks, hs, hstops, hcontent⟩ := read?_eq_some.1 h
  obtain ⟨u, rfl⟩ := hcall.brace
  -- The line break is not in the delimiter, and the brace behind it is not in the name.
  have hopening : '\n' ∉ markup.opening := by
    rw [opening_eq]
    cases markup.trimBefore <;> decide
  obtain ⟨inner, rfl, hinner⟩ := exists_of_append_cons_eq_append hs hopening
  have hbrace : '\x7b' ∉ blanks ++ markup.name := by
    intro hmem
    rcases List.mem_append.1 hmem with hmem | hmem
    · exact absurd (hblanks _ hmem) (by decide)
    · exact absurd (hname.continuesKey hmem) (by decide)
  have hlast : (blanks ++ markup.name).getLast? ≠ some '\n' := by
    intro hlast
    have hne : markup.name ≠ [] := by
      obtain ⟨c, more, hcons, -⟩ := hname
      rw [hcons]
      exact List.cons_ne_nil c more
    rw [List.getLast?_append_of_ne_nil _ hne] at hlast
    exact absurd (hname.continuesKey (List.mem_of_getLast? hlast)) (by decide)
  obtain ⟨behind, rfl, rfl⟩ := exists_of_append_break hinner.symm hbrace hlast
  rw [stops_append_line] at hstops
  rw [content?_append_line hcall.unquoted] at hcontent
  cases hfound : content? behind with
  | some found =>
    obtain ⟨arguments, trim, rest'⟩ := found
    rw [hfound] at hcontent
    obtain ⟨rfl, rfl, -⟩ := by simpa using hcontent
    exact .inl ⟨rest', read?_eq_some.2 ⟨hname, blanks, behind, hblanks, rfl, hstops, hfound⟩⟩
  | none =>
    refine .inr ⟨⟨markup.trimBefore, blanks, behind, hblanks, rfl, hstops, hfound⟩, ?_⟩
    rw [hfound] at hcontent
    obtain ⟨⟨text, trim, rest'⟩, hline, heq⟩ := Option.map_eq_some_iff.1 hcontent
    obtain ⟨harguments, -⟩ := Prod.mk.inj heq
    obtain ⟨t, ht, hsuffix⟩ := exists_barrier_of_content? hcall hline
    exact ⟨t, ht, hsuffix.trans ⟨behind, harguments⟩⟩

end Markup

/-- An end tag of `block` stands in `s`. -/
def HasEndTag (block s : List Char) : Prop :=
  ∃ before tag after, IsEndTag block tag ∧ s = before ++ (tag ++ after)

section Blocks

variable {block s call after : List Char}

/-- An end tag starts with a brace and ends with one, and in between there is no opening brace. -/
theorem IsEndTag.exists_between {tag : List Char} (hverbatim : isVerbatim block = true)
    (h : IsEndTag block tag) :
    ∃ inside, '\x7b' ∉ inside ∧ tag = '\x7b' :: (inside ++ ['\x7d']) := by
  obtain ⟨trimBefore, trimAfter, before, after, hbefore, hafter, rfl⟩ := h
  have hbefore' : '\x7b' ∉ before := fun hmem => absurd (hbefore _ hmem) (by decide)
  have hafter' : '\x7b' ∉ after := fun hmem => absurd (hafter _ hmem) (by decide)
  have hblock : '\x7b' ∉ block := by
    rcases eq_of_isVerbatim hverbatim with rfl | rfl <;> decide
  obtain ⟨front, hfront, hopening⟩ : ∃ front, '\x7b' ∉ front ∧
      Markup.openingText trimBefore = '\x7b' :: front := by
    cases trimBefore
    · exact ⟨['%'], by decide, rfl⟩
    · exact ⟨['%', '-'], by decide, rfl⟩
  obtain ⟨back, hback, hclosing⟩ : ∃ back, '\x7b' ∉ back ∧
      Markup.closingText trimAfter = back ++ ['\x7d'] := by
    cases trimAfter
    · exact ⟨['%'], by decide, rfl⟩
    · exact ⟨['-', '%'], by decide, rfl⟩
  refine ⟨front ++ (before ++ ("end".toList ++ block ++ (after ++ back))), ?_, ?_⟩
  · simp [hfront, hbefore', hblock, hafter', hback]
  · rw [hopening, hclosing]
    simp

/-- An end tag that starts before the line `call` ends before it. -/
theorem IsEndTag.exists_append_of_line {u tag : List Char} (hverbatim : isVerbatim block = true)
    (htag : IsEndTag block tag) (hcall : Barrier call) (hu : u ≠ [])
    (h : u ++ '\n' :: call = tag ++ after) : ∃ w, u = tag ++ w := by
  obtain ⟨v, rfl⟩ := hcall.brace
  obtain ⟨inside, hinside, rfl⟩ := htag.exists_between hverbatim
  obtain ⟨c, u, rfl⟩ := List.exists_cons_of_ne_nil hu
  obtain ⟨rfl, htail⟩ := List.cons.inj h
  obtain ⟨w, rfl, -⟩ := exists_of_append_break (u := inside ++ ['\x7d']) htail
    (by simpa using hinside) (by simp)
  exact ⟨w, rfl⟩

/-- A block that has an end tag in `s` ends there, also with the line `call` behind. -/
theorem BlockEnds.append_line (hverbatim : isVerbatim block = true) (hcall : Barrier call)
    (h : BlockEnds block s after)
    (hended : HasEndTag block s) :
    BlockEnds block (s ++ '\n' :: call) (after ++ '\n' :: call) := by
  rcases h with ⟨before, tag, htag, rfl, hfirst⟩ | ⟨-, hnone⟩
  · refine .inl ⟨before, tag, htag, by simp, fun before' tag' after' htag' hs => ?_⟩
    -- An end tag that starts earlier is complete before the line, so it is one of the text alone.
    rw [List.append_assoc, List.append_eq_append_iff] at hs
    rcases hs with ⟨a, rfl, -⟩ | ⟨u, rfl, hs⟩
    · exact Nat.le.intro List.length_append.symm
    · by_contra hearlier
      have hu : u ++ (tag ++ after) ≠ [] := by
        obtain ⟨inside, -, rfl⟩ := htag.exists_between hverbatim
        simp
      have hline : u ++ (tag ++ after) ++ '\n' :: call = tag' ++ after' := by
        rw [hs]
        simp
      obtain ⟨w, hw⟩ := htag'.exists_append_of_line hverbatim hcall hu hline
      exact hearlier (hfirst before' tag' w htag' (by rw [← hw, List.append_assoc]))
  · obtain ⟨before, tag, after', htag, hs⟩ := hended
    exact absurd hs (hnone before tag after' htag)

end Blocks

/-- The scan of a text comes to a place in it, which is given by the rest of the text from there. -/
inductive Reaches (isDirective : String → Bool) : List Char → List Char → Prop where
  /-- The scan starts at the beginning of `s`. -/
  | start (s : List Char) : Reaches isDirective s s
  /-- The character `c` is copied, and the scan goes on behind it. -/
  | plain {c : Char} {s place : List Char} (hplain : IsPlain isDirective (c :: s))
      (hrest : Reaches isDirective s place) : Reaches isDirective (c :: s) place
  /-- A block is copied, and the scan goes on with the text `after` behind it. -/
  | block {s rest after place : List Char} {markup : Markup}
      (hread : Markup.read? s = some (markup, rest)) (hverbatim : isVerbatim markup.name = true)
      (hends : BlockEnds markup.name rest after) (hrest : Reaches isDirective after place) :
      Reaches isDirective s place
  /-- The tag of a directive is met, and the scan goes on with the `rest` behind it. -/
  | directive {s rest place : List Char} {markup : Markup}
      (hread : Markup.read? s = some (markup, rest)) (hverbatim : isVerbatim markup.name = false)
      (hdirective : isDirective (String.ofList markup.name) = true)
      (hrest : Reaches isDirective rest place) : Reaches isDirective s place

/-- At the start of `s` stands a block that is left alone and not closed in the rest of the text. -/
inductive OpensBlock (s : List Char) : Prop where
  /-- The tag that opens the block is complete, and no end tag follows. -/
  | unended {markup : Markup} {rest : List Char} (hread : Markup.read? s = some (markup, rest))
      (hverbatim : isVerbatim markup.name = true) (hnone : ¬ HasEndTag markup.name rest)
  /-- The closing delimiter of the tag that opens the block is missing. -/
  | unfinished {name : List Char} (hverbatim : isVerbatim name = true)
      (hunfinished : Markup.Unfinished name s)

/-- The scan of `s` comes to a block that is not closed. -/
def LeavesOpen (isDirective : String → Bool) (s : List Char) : Prop :=
  ∃ place, Reaches isDirective s place ∧ OpensBlock place

/-- Any `place` to which the scan of `s` comes is an end of `s`. -/
theorem Reaches.isSuffix {isDirective : String → Bool} {s place : List Char}
    (h : Reaches isDirective s place) : place <:+ s := by
  induction h with
  | start s => exact List.suffix_refl s
  | plain _ _ ih => exact ih.trans (List.suffix_cons _ _)
  | block hread _ hends _ ih =>
    obtain ⟨inside, rfl⟩ := hends.exists_eq_append
    exact (ih.trans (List.suffix_append _ _)).trans (Markup.isSuffix_of_read? hread)
  | directive hread _ _ _ ih => exact ih.trans (Markup.isSuffix_of_read? hread)

/-- A text that opens a block has the name of the block in it. -/
theorem OpensBlock.exists_name {s : List Char} (h : OpensBlock s) :
    ∃ name, isVerbatim name = true ∧ name <:+: s := by
  cases h with
  | @unended markup rest hread hverbatim =>
    obtain ⟨blanks, -, hs, -⟩ := Markup.exists_spelling hread
    refine ⟨markup.name, hverbatim, markup.opening ++ blanks,
      markup.arguments ++ markup.closing ++ rest, ?_⟩
    rw [hs]
    simp only [List.append_assoc]
  | @unfinished name hverbatim hunfinished =>
    obtain ⟨trim, blanks, behind, -, hs, -⟩ := hunfinished
    refine ⟨name, hverbatim, Markup.openingText trim ++ blanks, behind, ?_⟩
    rw [hs]
    simp only [List.append_assoc]

/-- A text `s` in which no name of such a block occurs leaves none open. -/
theorem not_leavesOpen_of_unnamed {isDirective : String → Bool} {s : List Char}
    (h : ∀ name, isVerbatim name = true → ¬ name <:+: s) : ¬ LeavesOpen isDirective s := by
  rintro ⟨place, hreaches, hopens⟩
  obtain ⟨name, hverbatim, hname⟩ := hopens.exists_name
  exact h name hverbatim (hname.trans hreaches.isSuffix.isInfix)

section Scan

variable {isDirective : String → Bool} {s call : List Char} {tags last : List Markup}

/-- If `s` leaves no block open, and the scan meets no malformed tag when the line `call` is written
behind it, then the scan meets the tags of `s` and those of the line. -/
theorem Scans.append_line (h : Scans isDirective s tags) (hcall : Barrier call)
    (hline : Scans isDirective ('\n' :: call) last) (hclosed : ¬ LeavesOpen isDirective s)
    (hwell : ∀ all, Scans isDirective (s ++ '\n' :: call) all →
      ∀ tag ∈ all, tag.malformed? = none) :
    Scans isDirective (s ++ '\n' :: call) (tags ++ last) := by
  induction h with
  | finished => exact hline
  | @plain c s tags hplain _ ih =>
    have hplain' : IsPlain isDirective (c :: s ++ '\n' :: call) := by
      intro markup rest hread
      rcases Markup.read?_append_line hcall hread with
        ⟨rest', hread'⟩ | ⟨hunfinished, t, ht, hsuffix⟩
      · exact hplain markup rest' hread'
      · have hverbatim : isVerbatim markup.name = false := by
          rw [Bool.eq_false_iff]
          exact fun hverbatim => hclosed ⟨_, .start _, .unfinished hverbatim hunfinished⟩
        refine ⟨hverbatim, ?_⟩
        rw [Bool.eq_false_iff]
        intro hdirective
        -- The arguments of a directive cannot reach into the line.
        obtain ⟨behind, hbehind⟩ := exists_scans isDirective rest
        have hmalformed := hwell _ (.directive hread hverbatim hdirective hbehind) markup (.head _)
        obtain ⟨items, hitems⟩ := Markup.malformed?_eq_none.1 hmalformed
        exact Grammar.arguments_ne_ok ht hsuffix items hitems
    refine .plain hplain' (ih (fun ⟨place, hreaches, hopens⟩ => ?_) fun all hall => ?_)
    · exact hclosed ⟨place, .plain hplain hreaches, hopens⟩
    · exact hwell all (.plain hplain' hall)
  | block hread hverbatim hends _ ih =>
    have hread' := Markup.read?_append_line_of_some hcall hread
    -- A block without its end tag would be one that the text leaves open.
    have hends' := hends.append_line hverbatim hcall <| by
      by_contra hnone
      exact hclosed ⟨_, .start _, .unended hread hverbatim hnone⟩
    refine .block hread' hverbatim hends'
      (ih (fun ⟨place, hreaches, hopens⟩ => ?_) fun all hall => ?_)
    · exact hclosed ⟨place, .block hread hverbatim hends hreaches, hopens⟩
    · exact hwell all (.block hread' hverbatim hends' hall)
  | directive hread hverbatim hdirective _ ih =>
    have hread' := Markup.read?_append_line_of_some hcall hread
    refine .directive hread' hverbatim hdirective
      (ih (fun ⟨place, hreaches, hopens⟩ => ?_) fun all hall tag htag => ?_)
    · exact hclosed ⟨place, .directive hread hverbatim hdirective hreaches, hopens⟩
    · exact hwell _ (.directive hread' hverbatim hdirective hall) tag (.tail _ htag)

end Scan

end Promptbook
