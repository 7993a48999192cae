import Promptbook.Proofs.Directive.Continuation

/-!
# A Tag in Place of Another

What a scan makes of a text does not depend much on a tag in it that has no quotes and no other
braces between its own. Whatever starts before the tag ends before it, or it ends behind it, and
there it also ends if another such tag stands in its place. So extraction keeps its course, except
where the scan comes to the tag itself. In what follows, `tag` is a tag of a text, and `tag'` is the
same tag with a space more.

## Main definitions

* `IsCompact`: a tag from brace to brace without quotes and other braces in it.
* `Markup.EndsAlike`: content ends before the tag as it is, or behind it.
* `PassesBlock`: a block that is left alone, and what is left behind it.
* `StandsInDirective`: the tag is a part of the tag of a directive.
* `SameButForSpace`: two extractions are the same but for a space in the tag.
* `TakesSpace`: what has to hold of a text for its tag to get the space.

## Main results

* `Markup.read?_before`: what is read in front of the tag is read alike with the other one.
* `PassesBlock.exchange`: a block ends where it does with the other one.
* `TakesSpace.sameButForSpace`: the extraction of the text is the same but for the space.
-/

namespace Promptbook

open Text (Stops)
open Grammar (IsQuote)

/-- A tag from brace to brace without quotes and other braces in it. -/
def IsCompact (tag : List Char) : Prop :=
  ∃ inner, (∀ c ∈ inner, ¬ IsQuote c ∧ c ≠ '\x7b' ∧ c ≠ '\x7d') ∧
    tag = '\x7b' :: (inner ++ ['%', '\x7d'])

/-- No quote stands in such a tag. -/
theorem IsCompact.not_mem {tag : List Char} (h : IsCompact tag) {quote : Char}
    (hquote : IsQuote quote) : quote ∉ tag := by
  obtain ⟨inner, hinner, rfl⟩ := h
  intro hmem
  rcases List.mem_cons.1 hmem with rfl | hmem
  · exact absurd hquote (by simp [IsQuote])
  · rcases List.mem_append.1 hmem with hmem | hmem
    · exact (hinner quote hmem).1 hquote
    · rcases List.mem_pair.1 hmem with rfl | rfl <;> exact absurd hquote (by simp [IsQuote])

/-- Such a tag is not empty. -/
theorem IsCompact.length_pos {tag : List Char} (h : IsCompact tag) : 0 < tag.length := by
  obtain ⟨inner, -, rfl⟩ := h
  exact Nat.succ_pos _

/-- If `c` stands neither in `s` nor in `u`, an equality of texts that are cut at `c` is one before
it and one behind it. -/
theorem eq_of_append_cons_eq_append_cons {α : Type} {s t u v : List α} {c : α}
    (h : s ++ c :: t = u ++ c :: v) (hs : c ∉ s) (hu : c ∉ u) : s = u ∧ t = v := by
  obtain ⟨w, rfl, hv⟩ := exists_of_append_cons_eq_append h hu
  cases w with
  | nil => exact ⟨List.append_nil u, (List.cons.inj hv).2.symm⟩
  | cons d w =>
    obtain ⟨rfl, -⟩ := List.cons.inj hv
    exact absurd (by simp) hs

namespace Markup

variable {tag tag' after : List Char}

/-- The brace at the end of a closing delimiter is its only one. -/
theorem exists_closingText_eq (trim : Bool) :
    ∃ front, '\x7d' ∉ front ∧ closingText trim = front ++ ['\x7d'] := by
  cases trim
  · exact ⟨['%'], by decide, rfl⟩
  · exact ⟨['-', '%'], by decide, rfl⟩

/-- No opening brace stands in a closing delimiter. -/
theorem brace_not_mem_closingText (trim : Bool) : '\x7b' ∉ closingText trim := by
  cases trim <;> decide

/-- A `quote` that does not occur in `s` starts no quoted text before `s`. -/
theorem quoted?_cons_of_not_mem {quote : Char} {s : List Char} (h : quote ∉ s) :
    Grammar.quoted? (quote :: s) = none := by
  rw [Option.eq_none_iff_forall_ne_some]
  rintro ⟨text, rest⟩ hfound
  obtain ⟨quote', -, -, heq⟩ := Grammar.quoted?_eq_some.1 hfound
  obtain ⟨rfl, rfl⟩ := List.cons.inj heq
  exact h (by simp)

/-- Behind a text `inner` without braces and quotes, content ends at the latest with `%}`, and it
leaves the text `after`. -/
theorem exists_content?_of_unquoted {inner : List Char}
    (hinner : ∀ c ∈ inner, ¬ IsQuote c ∧ c ≠ '\x7d') (after : List Char) :
    ∃ text trim, content? (inner ++ '%' :: '\x7d' :: after) = some (text, trim, after) := by
  induction inner with
  | nil => exact ⟨[], false, content?_closingText false after⟩
  | cons c inner ih =>
    obtain ⟨⟨hc, hbrace⟩, hinner'⟩ := List.forall_mem_cons.1 hinner
    cases hclosing : closing? (c :: inner ++ '%' :: '\x7d' :: after) with
    | some found =>
      obtain ⟨trim, rest⟩ := found
      have hs := closing?_eq_some.1 hclosing
      rw [hs, content?_closingText]
      obtain ⟨front, hfront, hclose⟩ := exists_closingText_eq trim
      rw [hclose, List.append_assoc, List.singleton_append] at hs
      -- Both sides are followed by what stands behind the first closing brace.
      have hwhole : (c :: inner ++ ['%']) ++ '\x7d' :: after = front ++ '\x7d' :: rest := by
        rw [← hs]
        simp
      have hbraceless : '\x7d' ∉ c :: inner ++ ['%'] := by
        intro hmem
        rcases List.mem_append.1 hmem with hmem | hmem
        · exact (hinner _ hmem).2 rfl
        · exact absurd hmem (by decide)
      obtain ⟨-, rfl⟩ := eq_of_append_cons_eq_append_cons hwhole hbraceless hfront
      exact ⟨[], trim, rfl⟩
    | none =>
      obtain ⟨text, trim, hcontent⟩ := ih hinner'
      refine ⟨c :: text, trim, ?_⟩
      have hcons := content?_cons (Grammar.quoted?_cons_of_not_isQuote hc) hclosing
      rw [List.append_eq, hcontent] at hcons
      exact hcons

/-- Content that comes to a compact `tag` ends with it and leaves the text `after`. -/
theorem exists_content?_of_isCompact (htag : IsCompact tag) (after : List Char) :
    ∃ text trim, content? (tag ++ after) = some (text, trim, after) := by
  obtain ⟨inner, hinner, rfl⟩ := htag
  have hopen : ∀ c ∈ '\x7b' :: inner, ¬ IsQuote c ∧ c ≠ '\x7d' :=
    List.forall_mem_cons.2 ⟨by simp [IsQuote], fun c hc => ⟨(hinner c hc).1, (hinner c hc).2.2⟩⟩
  obtain ⟨text, trim, hcontent⟩ := exists_content?_of_unquoted hopen after
  refine ⟨text, trim, ?_⟩
  rw [← hcontent]
  simp

/-- Content that is read from a text with `tag` in it, and from the text with `tag'` in its place,
up to the same place before the tag or up to the same place behind it. The text behind the tag is
`after`. -/
inductive EndsAlike (tag tag' after : List Char) :
    Option (List Char × Bool × List Char) → Option (List Char × Bool × List Char) → Prop where
  /-- The content ends before the tag, with `w` between, and it is the same. -/
  | before (text : List Char) (trim : Bool) (w : List Char) :
      EndsAlike tag tag' after (some (text, trim, w ++ (tag ++ after)))
        (some (text, trim, w ++ (tag' ++ after)))
  /-- The tag is in the content, which ends where `rest` is left. -/
  | behind (text text' : List Char) (trim trim' : Bool) {rest : List Char} (h : rest <:+ after) :
      EndsAlike tag tag' after (some (text, trim, rest)) (some (text', trim', rest))
  /-- The content does not end. -/
  | unended : EndsAlike tag tag' after none none

/-- Some text `front` may be added to both contents. -/
theorem EndsAlike.prepend {x y : Option (List Char × Bool × List Char)}
    (h : EndsAlike tag tag' after x y) (front : List Char) :
    EndsAlike tag tag' after (x.map fun found => (front ++ found.1, found.2))
      (y.map fun found => (front ++ found.1, found.2)) := by
  cases h with
  | before text trim w => exact .before (front ++ text) trim w
  | behind text text' trim trim' h => exact .behind (front ++ text) (front ++ text') trim trim' h
  | unended => exact .unended

/-- Content that is read from a text `behind` the tag ends at the same place, whatever `front` and
`front'` are put before it. -/
theorem endsAlike_map {behind : List Char} (h : behind <:+ after) (front front' : List Char) :
    EndsAlike tag tag' after
      ((content? behind).map fun found => (front ++ found.1, found.2))
      ((content? behind).map fun found => (front' ++ found.1, found.2)) := by
  cases hcontent : content? behind with
  | none => exact .unended
  | some found =>
    obtain ⟨text, trim, rest⟩ := found
    have hrest : rest <:+ behind := ⟨_, (content?_eq_some hcontent).1.symm⟩
    exact .behind _ _ _ _ (hrest.trans h)

/-- Behind a quoted text the content goes on. -/
theorem content?_quoted_append {quote : Char} {inner u : List Char} (hquote : IsQuote quote)
    (hinner : quote ∉ inner) (s : List Char) :
    content? (quote :: (inner ++ quote :: u) ++ s) =
      (content? (u ++ s)).map fun found => (quote :: inner ++ [quote] ++ found.1, found.2) := by
  rw [List.cons_append, List.append_assoc, List.cons_append, content?_quoted hquote hinner]
  simp

/-- A compact `tag` may stand in a quoted text: the content goes on behind the closing quote. -/
theorem content?_quoted_tag {quote : Char} {u inner behind : List Char} (hquote : IsQuote quote)
    (hu : quote ∉ u) (hinner : quote ∉ inner) (htag : IsCompact tag) :
    content? (quote :: u ++ (tag ++ (inner ++ quote :: behind))) =
      (content? behind).map fun found =>
        (quote :: (u ++ tag ++ inner) ++ [quote] ++ found.1, found.2) := by
  have hfresh : quote ∉ u ++ tag ++ inner := by
    simp [hu, htag.not_mem hquote, hinner]
  have hcontent : content? (quote :: (u ++ tag ++ inner ++ quote :: behind)) = _ :=
    content?_quoted hquote hfresh
  simpa using hcontent

/-- Before a compact `tag`, a character `c` starts no quoted text if it is no quote or occurs
neither between itself and the tag nor behind the tag. -/
theorem quoted?_tag {c : Char} {u : List Char} (hinside : ¬ (IsQuote c ∧ c ∈ u))
    (hacross : ¬ (IsQuote c ∧ c ∈ after)) (htag : IsCompact tag) :
    Grammar.quoted? (c :: (u ++ (tag ++ after))) = none := by
  by_cases hquote : IsQuote c
  · have hu : c ∉ u := fun hu => hinside ⟨hquote, hu⟩
    have hafter : c ∉ after := fun hafter => hacross ⟨hquote, hafter⟩
    exact quoted?_cons_of_not_mem (by simp [hu, htag.not_mem hquote, hafter])
  · exact Grammar.quoted?_cons_of_not_isQuote hquote

/-- A closing delimiter that starts before a compact `tag` ends before it, so it is read from `u`
alone. -/
theorem closing?_append_tag (htag : IsCompact tag) (u after : List Char) :
    closing? (u ++ (tag ++ after)) =
      (closing? u).map fun found => (found.1, found.2 ++ (tag ++ after)) := by
  obtain ⟨inner, -, rfl⟩ := htag
  exact closing?_append_of_not_mem brace_not_mem_closingText _

/-- Whether `tag` or `tag'` stands in a text, content ends alike. -/
theorem endsAlike_content? (htag : IsCompact tag) (htag' : IsCompact tag') (u after : List Char) :
    EndsAlike tag tag' after (content? (u ++ (tag ++ after)))
      (content? (u ++ (tag' ++ after))) := by
  -- What is read in front of the tag leaves a shorter text before it.
  induction hlength : u.length using Nat.strongRecOn generalizing u with
  | ind n ih =>
    subst hlength
    cases u with
    | nil =>
      obtain ⟨text, trim, hcontent⟩ := exists_content?_of_isCompact htag after
      obtain ⟨text', trim', hcontent'⟩ := exists_content?_of_isCompact htag' after
      rw [List.nil_append, List.nil_append, hcontent, hcontent']
      exact .behind text text' trim trim' (List.suffix_refl after)
    | cons c u =>
      by_cases hinside : IsQuote c ∧ c ∈ u
      · -- A text in quotes is complete before the tag.
        obtain ⟨hquote, hmem⟩ := hinside
        obtain ⟨inner, u, rfl, hfirst⟩ := List.eq_append_cons_of_mem hmem
        rw [content?_quoted_append hquote hfirst, content?_quoted_append hquote hfirst]
        refine (ih u.length ?_ u rfl).prepend _
        simp only [List.length_cons, List.length_append]
        omega
      by_cases hacross : IsQuote c ∧ c ∈ after
      · -- The tag stands in quotes that are closed behind it.
        obtain ⟨hquote, hmem⟩ := hacross
        have hu : c ∉ u := fun hu => hinside ⟨hquote, hu⟩
        obtain ⟨inner, behind, rfl, hfirst⟩ := List.eq_append_cons_of_mem hmem
        rw [content?_quoted_tag hquote hu hfirst htag, content?_quoted_tag hquote hu hfirst htag']
        exact endsAlike_map ⟨inner ++ [c], by simp⟩ _ _
      have hclosing := closing?_append_tag htag (c :: u) after
      have hclosing' := closing?_append_tag htag' (c :: u) after
      cases hfound : closing? (c :: u) with
      | some found =>
        -- The content ends here.
        obtain ⟨trim, w⟩ := found
        have hends : ∀ t, content? (c :: u ++ t) = some ([], trim, w ++ t) := by
          intro t
          rw [closing?_eq_some.1 hfound, List.append_assoc, content?_closingText]
        rw [hends, hends]
        exact .before [] trim w
      | none =>
        rw [hfound] at hclosing hclosing'
        have hgoes := content?_cons (quoted?_tag hinside hacross htag) hclosing
        have hgoes' := content?_cons (quoted?_tag hinside hacross htag') hclosing'
        rw [List.cons_append, List.cons_append, hgoes, hgoes']
        exact (ih u.length (Nat.lt_succ_self _) u rfl).prepend [c]

/-- The name of a tag that starts before a brace stands before the brace, and content goes on there
in `w`. -/
theorem exists_of_read?_brace {u t rest : List Char} {markup : Markup} (hu : u ≠ [])
    (h : read? (u ++ '\x7b' :: t) = some (markup, rest)) :
    ∃ blanks w, (∀ c ∈ blanks, Text.isPlainSpace c = true) ∧
      u = markup.opening ++ (blanks ++ markup.name ++ w) ∧
        Stops Grammar.continuesKey (w ++ '\x7b' :: t) ∧
          content? (w ++ '\x7b' :: t) = some (markup.arguments, markup.trimAfter, rest) := by
  obtain ⟨hname, blanks, behind, hblanks, hs, hstops, hcontent⟩ := read?_eq_some.1 h
  obtain ⟨c, u, rfl⟩ := List.exists_cons_of_ne_nil hu
  obtain ⟨front, hfront, hopening⟩ :
      ∃ front, '\x7b' ∉ front ∧ markup.opening = '\x7b' :: front := by
    rw [opening_eq]
    cases markup.trimBefore
    · exact ⟨['%'], by decide, rfl⟩
    · exact ⟨['%', '-'], by decide, rfl⟩
  -- No brace stands behind the first character up to the end of the name.
  have hbraceless : '\x7b' ∉ front ++ (blanks ++ markup.name) := by
    intro hmem
    rcases List.mem_append.1 hmem with hmem | hmem
    · exact hfront hmem
    rcases List.mem_append.1 hmem with hmem | hmem
    · exact absurd (hblanks _ hmem) (by decide)
    · exact absurd (hname.continuesKey hmem) (by decide)
  rw [hopening] at hs
  obtain ⟨rfl, htail⟩ := List.cons.inj hs
  have hsplit : u ++ '\x7b' :: t = front ++ (blanks ++ markup.name) ++ behind := by
    simpa using htail
  obtain ⟨w, rfl, rfl⟩ := exists_of_append_cons_eq_append hsplit hbraceless
  exact ⟨blanks, w, hblanks, by simp [hopening], hstops, hcontent⟩

/-- What is read as a tag from a place before `tag` is the same with `tag'` in its place and leaves
the same `w` before it. Or it contains the tag, and with `tag'` a tag of the same name is read that
leaves the same `rest` behind it. -/
theorem read?_before (htag : IsCompact tag) (htag' : IsCompact tag') {u rest : List Char}
    {markup : Markup} (hu : u ≠ []) (h : read? (u ++ (tag ++ after)) = some (markup, rest)) :
    (∃ w, rest = w ++ (tag ++ after) ∧
      read? (u ++ (tag' ++ after)) = some (markup, w ++ (tag' ++ after))) ∨
    rest <:+ after ∧ ∃ markup', markup'.name = markup.name ∧
      read? (u ++ (tag' ++ after)) = some (markup', rest) := by
  have hname := (read?_eq_some.1 h).1
  obtain ⟨inner, -, htext⟩ := id htag
  obtain ⟨inner', -, htext'⟩ := id htag'
  rw [htext, List.cons_append] at h
  obtain ⟨blanks, w, hblanks, rfl, hstops, hcontent⟩ := exists_of_read?_brace hu h
  -- The other tag starts with the same brace, so the name ends where it does.
  have hstops' : Stops Grammar.continuesKey (w ++ (tag' ++ after)) := by
    rw [htext', List.cons_append]
    cases w with
    | nil => exact Text.stops_cons.2 (Text.stops_cons.1 hstops)
    | cons d w => exact Text.stops_cons.2 (Text.stops_cons.1 hstops)
  have hreads : ∀ {text rest' trim},
      content? (w ++ (tag' ++ after)) = some (text, trim, rest') →
        read? (markup.opening ++ (blanks ++ markup.name ++ w) ++ (tag' ++ after)) =
          some (⟨markup.trimBefore, markup.name, text, trim⟩, rest') := fun hcontent' =>
    read?_eq_some.2 ⟨hname, blanks, _, hblanks, by simp [opening_eq], hstops', hcontent'⟩
  have hends := endsAlike_content? htag htag' w after
  rw [← List.cons_append, ← htext] at hcontent
  rw [hcontent] at hends
  generalize hother : content? (w ++ (tag' ++ after)) = other at hends
  cases hends with
  | before text trim w' => exact .inl ⟨w', rfl, hreads hother⟩
  | behind text text' trim trim' hrest =>
    exact .inr ⟨hrest, ⟨markup.trimBefore, markup.name, text', trim'⟩, rfl, hreads hother⟩

end Markup

section Blocks

variable {block tag tag' after : List Char}

/-- An end tag that starts before a compact `tag` ends before it, so it is read from `c :: u`
alone. -/
theorem afterEndTag?_before (hverbatim : isVerbatim block = true) (htag : IsCompact tag) (c : Char)
    (u after : List Char) :
    afterEndTag? block (c :: u ++ (tag ++ after)) =
      (afterEndTag? block (c :: u)).map (· ++ (tag ++ after)) := by
  cases hfound : afterEndTag? block (c :: u) with
  | some rest =>
    obtain ⟨end_, hend, hu⟩ := afterEndTag?_eq_some.1 hfound
    exact afterEndTag?_eq_some.2 ⟨end_, hend, by rw [hu, List.append_assoc]⟩
  | none =>
    rw [Option.map_none, Option.eq_none_iff_forall_ne_some]
    intro rest hrest
    obtain ⟨end_, hend, hs⟩ := afterEndTag?_eq_some.1 hrest
    obtain ⟨inside, hinside, rfl⟩ := hend.exists_between hverbatim
    obtain ⟨inner, -, rfl⟩ := htag
    obtain ⟨rfl, htail⟩ := List.cons.inj hs
    have hbraceless : '\x7b' ∉ inside ++ ['\x7d'] := by simpa using hinside
    obtain ⟨w, rfl, -⟩ := exists_of_append_cons_eq_append htail hbraceless
    exact ne_append_of_afterEndTag?_eq_none hfound hend w rfl

/-- The search for the end of a block finds one before the tag, with `w` between, or it comes to the
tag. It does the same with `tag'`. -/
theorem afterBlock_before (hverbatim : isVerbatim block = true) (htag : IsCompact tag)
    (htag' : IsCompact tag') (u after : List Char) :
    (∃ w, afterBlock block (u ++ (tag ++ after)) = w ++ (tag ++ after) ∧
      afterBlock block (u ++ (tag' ++ after)) = w ++ (tag' ++ after)) ∨
    afterBlock block (u ++ (tag ++ after)) = afterBlock block (tag ++ after) ∧
      afterBlock block (u ++ (tag' ++ after)) = afterBlock block (tag' ++ after) := by
  induction u with
  | nil => exact .inr ⟨rfl, rfl⟩
  | cons c u ih =>
    have hend := afterEndTag?_before hverbatim htag c u after
    have hend' := afterEndTag?_before hverbatim htag' c u after
    rw [List.cons_append, afterBlock, List.cons_append, afterBlock, ← List.cons_append,
      ← List.cons_append, hend, hend']
    cases afterEndTag? block (c :: u) with
    | some w => exact .inl ⟨w, rfl, rfl⟩
    | none => exact ih

/-- Only an opening brace starts an end tag. -/
theorem afterEndTag?_of_ne {c : Char} (hc : c ≠ '\x7b') (s : List Char) :
    afterEndTag? block (c :: s) = none := by
  rw [Option.eq_none_iff_forall_ne_some]
  intro rest hrest
  obtain ⟨end_, ⟨trimBefore, trimAfter, u, v, -, -, rfl⟩, hs⟩ := afterEndTag?_eq_some.1 hrest
  cases trimBefore <;> exact hc (List.cons.inj hs).1

/-- No end tag starts in a text `s` without opening braces. -/
theorem afterBlock_append_of_unopened {s : List Char} (hs : '\x7b' ∉ s) :
    afterBlock block (s ++ after) = afterBlock block after := by
  induction s with
  | nil => rfl
  | cons c s ih =>
    have hc : c ≠ '\x7b' := fun heq => hs (heq ▸ List.mem_cons_self)
    rw [List.cons_append, afterBlock, afterEndTag?_of_ne hc]
    exact ih fun hmem => hs (List.mem_cons_of_mem _ hmem)

/-- The brace at the end of an end tag is its only closing one. -/
theorem IsEndTag.exists_front {end_ : List Char} (hverbatim : isVerbatim block = true)
    (h : IsEndTag block end_) : ∃ front, '\x7d' ∉ front ∧ end_ = front ++ ['\x7d'] := by
  obtain ⟨trimBefore, trimAfter, u, v, hu, hv, rfl⟩ := h
  have hu' : '\x7d' ∉ u := fun hmem => absurd (hu _ hmem) (by decide)
  have hv' : '\x7d' ∉ v := fun hmem => absurd (hv _ hmem) (by decide)
  have hblock : '\x7d' ∉ "end".toList ++ block := by
    rcases eq_of_isVerbatim hverbatim with rfl | rfl <;> decide
  have hopening : '\x7d' ∉ Markup.openingText trimBefore := by
    cases trimBefore <;> decide
  obtain ⟨front, hfront, hclosing⟩ := Markup.exists_closingText_eq trimAfter
  refine ⟨Markup.openingText trimBefore ++ (u ++ ("end".toList ++ block ++ (v ++ front))), ?_, ?_⟩
  · simp only [List.mem_append, not_or] at hblock ⊢
    exact ⟨hopening, hu', hblock, hv', hfront⟩
  · rw [hclosing]
    simp only [List.append_assoc]

/-- If a compact `tag` ends a block, the text `after` is left. Otherwise the search goes on in this
text. -/
theorem afterBlock_tag (hverbatim : isVerbatim block = true) (htag : IsCompact tag) :
    afterBlock block (tag ++ after) =
      if (afterEndTag? block (tag ++ after)).isSome then after else afterBlock block after := by
  obtain ⟨inner, hinner, rfl⟩ := htag
  cases hfound : afterEndTag? block ('\x7b' :: (inner ++ ['%', '\x7d']) ++ after) with
  | some rest =>
    obtain ⟨end_, hend, hs⟩ := afterEndTag?_eq_some.1 hfound
    obtain ⟨front, hfront, rfl⟩ := hend.exists_front hverbatim
    -- An end tag that starts here is the compact tag itself: it ends at the first closing brace.
    have hwhole : ('\x7b' :: inner ++ ['%']) ++ '\x7d' :: after = front ++ '\x7d' :: rest := by
      simpa using hs
    have hbraceless : '\x7d' ∉ '\x7b' :: inner ++ ['%'] := by
      simpa using fun hmem => (hinner _ hmem).2.2 rfl
    obtain ⟨-, rfl⟩ := eq_of_append_cons_eq_append_cons hwhole hbraceless hfront
    rw [List.cons_append] at hfound ⊢
    rw [afterBlock, hfound]
    rfl
  | none =>
    -- The rest of the tag opens nothing, so the search skips it.
    have hunopened : '\x7b' ∉ inner ++ ['%', '\x7d'] := by
      simpa using fun hmem => (hinner _ hmem).2.1 rfl
    rw [List.cons_append] at hfound ⊢
    rw [afterBlock, hfound]
    exact afterBlock_append_of_unopened hunopened

end Blocks

/-- Two extractions are the same, or they have the same directives and the template of the second
one has `tag'` where that of the first one has `tag`. Apart from that the templates are the same.
Here `tag'` is the tag with a space more, and `after` is the text behind the tag. -/
inductive SameButForSpace (isDirective : String → Bool) (tag tag' after : List Char) :
    Except (String × List Char) Extraction → Except (String × List Char) Extraction → Prop where
  /-- Both fail in the same way. -/
  | error (offence : String × List Char) :
      SameButForSpace isDirective tag tag' after (.error offence) (.error offence)
  /-- Both are the same. -/
  | same (found : Extraction) :
      SameButForSpace isDirective tag tag' after (.ok found) (.ok found)
  /-- The second template has the tag with the space. Behind the tag both go on with a text `kept`
  that stands there, as it is, and with what extraction makes of the `rest` behind it. -/
  | space {index : Nat} {found : Extraction} {kept rest : List Char} (copied : List Char)
      (occurrences : List Occurrence) (hafter : after = kept ++ rest)
      (hfound : extractFrom isDirective index rest = .ok found) :
      SameButForSpace isDirective tag tag' after
        (.ok ⟨copied ++ tag ++ (kept ++ found.template), occurrences⟩)
        (.ok ⟨copied ++ tag' ++ (kept ++ found.template), occurrences⟩)

namespace SameButForSpace

variable {isDirective : String → Bool} {tag tag' after : List Char}
  {result result' : Except (String × List Char) Extraction}

theorem refl (result : Except (String × List Char) Extraction) :
    SameButForSpace isDirective tag tag' after result result := by
  cases result with
  | error offence => exact .error offence
  | ok found => exact .same found

/-- What is copied in `front`, and the directives found there, make no difference. -/
theorem prepend (h : SameButForSpace isDirective tag tag' after result result')
    (front : List Char) (occurrences : List Occurrence) :
    SameButForSpace isDirective tag tag' after
      (result.map fun found => ⟨front ++ found.template, occurrences ++ found.occurrences⟩)
      (result'.map fun found => ⟨front ++ found.template, occurrences ++ found.occurrences⟩) := by
  cases h with
  | error offence => exact .error offence
  | same found => exact .same _
  | space copied occurrences' hafter hfound =>
    have hspace := @space isDirective tag tag' after _ _ _ _ (front ++ copied)
      (occurrences ++ occurrences') hafter hfound
    simp only [List.append_assoc] at hspace
    simp only [Except.map, List.append_assoc]
    exact hspace

/-- If the tag is copied into the template with `copied` before it and `kept` behind it, the
templates are the same but for the tag. -/
theorem of_copied {kept rest : List Char} (copied : List Char) (hafter : after = kept ++ rest)
    (index : Nat) :
    SameButForSpace isDirective tag tag' after
      ((extractFrom isDirective index rest).map fun found =>
        { found with template := copied ++ tag ++ kept ++ found.template })
      ((extractFrom isDirective index rest).map fun found =>
        { found with template := copied ++ tag' ++ kept ++ found.template }) := by
  cases hfound : extractFrom isDirective index rest with
  | error offence => exact .error offence
  | ok found =>
    have hspace := @space isDirective tag tag' after _ _ _ _ copied found.occurrences hafter hfound
    rw [← List.append_assoc, ← List.append_assoc] at hspace
    exact hspace

/-- Both extractions fail in the same way, or they have the same directives. -/
theorem map_occurrences (h : SameButForSpace isDirective tag tag' after result result') :
    result.map Extraction.occurrences = result'.map Extraction.occurrences := by
  cases h <;> rfl

end SameButForSpace

/-- The text `s` starts with a block that is left alone, and `after` is left behind it. -/
def PassesBlock (s after : List Char) : Prop :=
  ∃ markup rest, Markup.read? s = some (markup, rest) ∧ isVerbatim markup.name = true ∧
    BlockEnds markup.name rest after

/-- A block is copied into the template, here as the text `inside`. -/
theorem PassesBlock.extractFrom_eq {isDirective : String → Bool} {inside after : List Char}
    (h : PassesBlock (inside ++ after) after) (index : Nat) :
    extractFrom isDirective index (inside ++ after) =
      (extractFrom isDirective index after).map fun found =>
        { found with template := inside ++ found.template } := by
  obtain ⟨markup, rest, hread, hverbatim, hends⟩ := h
  exact extractFrom_block hread hverbatim hends rfl

/-- What is left behind a block is the end of the text `s`. -/
theorem PassesBlock.isSuffix {s after : List Char} (h : PassesBlock s after) : after <:+ s := by
  obtain ⟨markup, rest, hread, -, hends⟩ := h
  obtain ⟨inside, rfl⟩ := hends.exists_eq_append
  exact (List.suffix_append inside after).trans (Markup.isSuffix_of_read? hread)

/-- What is left behind a block is shorter than the text `s`. -/
theorem PassesBlock.length_lt {s after : List Char} (h : PassesBlock s after) :
    after.length < s.length := by
  obtain ⟨markup, rest, hread, -, hends⟩ := h
  obtain ⟨inside, rfl⟩ := hends.exists_eq_append
  have hshorter := Markup.length_lt_of_read? hread
  rw [List.length_append] at hshorter
  omega

section Extraction

variable {isDirective : String → Bool} {index : Nat} {s place rest after : List Char}
  {markup : Markup}

/-- From a character `c` that is copied, the scan goes on behind it. -/
theorem Reaches.of_plain {c : Char} (hplain : IsPlain isDirective (c :: s))
    (h : Reaches isDirective (c :: s) place) : place = c :: s ∨ Reaches isDirective s place := by
  cases h with
  | start => exact .inl rfl
  | plain _ hrest => exact .inr hrest
  | block hread hverbatim =>
    rw [(hplain _ _ hread).1] at hverbatim
    cases hverbatim
  | directive hread _ hdirective =>
    rw [(hplain _ _ hread).2] at hdirective
    cases hdirective

/-- A scan that starts at a block comes to every place to which one comes that starts behind it. -/
theorem PassesBlock.reaches (hpass : PassesBlock s after) (h : Reaches isDirective after place) :
    Reaches isDirective s place := by
  obtain ⟨markup, rest, hread, hverbatim, hends⟩ := hpass
  exact .block hread hverbatim hends h

/-- From a block, the scan goes on with the text `after` behind it. -/
theorem Reaches.of_block (hpass : PassesBlock s after) (h : Reaches isDirective s place) :
    place = s ∨ Reaches isDirective after place := by
  obtain ⟨markup, rest, hread, hverbatim, hends⟩ := hpass
  cases h with
  | start => exact .inl rfl
  | plain hplain =>
    rw [(hplain _ _ hread).1] at hverbatim
    cases hverbatim
  | block hread' _ hends' hrest =>
    cases hread.symm.trans hread'
    rw [hends.unique hends']
    exact .inr hrest
  | directive hread' hverbatim' =>
    cases hread.symm.trans hread'
    rw [hverbatim] at hverbatim'
    cases hverbatim'

/-- From the tag of a directive, the scan goes on with the `rest` behind it. -/
theorem Reaches.of_directive (hread : Markup.read? s = some (markup, rest))
    (hverbatim : isVerbatim markup.name = false)
    (hdirective : isDirective (String.ofList markup.name) = true)
    (h : Reaches isDirective s place) : place = s ∨ Reaches isDirective rest place := by
  cases h with
  | start => exact .inl rfl
  | plain hplain =>
    rw [(hplain _ _ hread).2] at hdirective
    cases hdirective
  | block hread' hverbatim' =>
    cases hread.symm.trans hread'
    rw [hverbatim] at hverbatim'
    cases hverbatim'
  | directive hread' _ _ hrest =>
    cases hread.symm.trans hread'
    exact .inr hrest

/-- In the scan of `s`, some directive tag starts before `place` and goes on behind it. -/
def StandsInDirective (isDirective : String → Bool) (s place : List Char) : Prop :=
  ∃ earlier markup rest, Reaches isDirective s earlier ∧
    Markup.read? earlier = some (markup, rest) ∧ isVerbatim markup.name = false ∧
      isDirective (String.ofList markup.name) = true ∧
        place.length < earlier.length ∧ rest.length < place.length

/-- A text `kept` without opening braces is copied into the template. -/
theorem extractFrom_append_of_unopened {kept : List Char} (h : '\x7b' ∉ kept) :
    extractFrom isDirective index (kept ++ s) =
      (extractFrom isDirective index s).map fun found =>
        { found with template := kept ++ found.template } := by
  induction kept with
  | nil =>
    rw [List.nil_append]
    cases extractFrom isDirective index s <;> rfl
  | cons c kept ih =>
    have hplain : IsPlain isDirective (c :: (kept ++ s)) :=
      isPlain_of_ne fun t ht => h ((List.cons.inj ht).1 ▸ List.mem_cons_self)
    rw [List.cons_append, extractFrom_plain hplain, ih fun hmem => h (List.mem_cons_of_mem _ hmem)]
    cases extractFrom isDirective index s <;> rfl

/-- A compact `tag` that is neither a directive nor opens a block is copied into the template. -/
theorem extractFrom_tag {tag : List Char} (htag : IsCompact tag)
    (hplain : IsPlain isDirective (tag ++ after)) :
    extractFrom isDirective index (tag ++ after) =
      (extractFrom isDirective index after).map fun found =>
        { found with template := tag ++ found.template } := by
  obtain ⟨inner, hinner, rfl⟩ := htag
  have hunopened : '\x7b' ∉ inner ++ ['%', '\x7d'] := by
    simpa using fun hmem => (hinner _ hmem).2.1 rfl
  rw [List.cons_append] at hplain ⊢
  rw [extractFrom_plain hplain, extractFrom_append_of_unopened hunopened]
  cases extractFrom isDirective index after <;> rfl

end Extraction

/-- Before the text `after`, `tag` ends a block just when `tag'` does. -/
def EndSameBlocks (tag tag' after : List Char) : Prop :=
  ∀ block, isVerbatim block = true →
    (afterEndTag? block (tag ++ after)).isSome = (afterEndTag? block (tag' ++ after)).isSome

/-- What has to hold of a text `s` with `tag ++ after` at its end, so that `tag'` may stand there in
place of `tag`: no directive has the tag in its arguments, a scan that comes to the tag does the
same with `tag'`, and a block in which the tag stands ends with `tag'` if it ends with `tag`. -/
structure TakesSpace (isDirective : String → Bool) (tag tag' after s : List Char) : Prop where
  /-- The tag is no part of a directive that starts before it. -/
  free : ¬ StandsInDirective isDirective s (tag ++ after)
  /-- If the scan of `s` comes to the tag, extraction does the same from there on with `tag'`. -/
  reached : Reaches isDirective s (tag ++ after) → ∀ index,
    SameButForSpace isDirective tag tag' after (extractFrom isDirective index (tag ++ after))
      (extractFrom isDirective index (tag' ++ after))
  /-- If the scan does not come to the tag, both tags end the same blocks. -/
  hidden : ¬ Reaches isDirective s (tag ++ after) → EndSameBlocks tag tag' after

section Exchange

variable {isDirective : String → Bool} {tag tag' after : List Char}

/-- If `tag'` may stand in `s` in place of `tag`, it may do so in `t`, provided that a scan of `s`
comes to every place to which a scan of `t` comes, and comes to the tag only if that of `t` does. -/
theorem TakesSpace.of_reaches {s t : List Char} (h : TakesSpace isDirective tag tag' after s)
    (hfurther : ∀ place, Reaches isDirective t place → Reaches isDirective s place)
    (hback : Reaches isDirective s (tag ++ after) → Reaches isDirective t (tag ++ after)) :
    TakesSpace isDirective tag tag' after t where
  free := by
    rintro ⟨earlier, markup, rest, hreaches, hdirective⟩
    exact h.free ⟨earlier, markup, rest, hfurther earlier hreaches, hdirective⟩
  reached hreaches := h.reached (hfurther _ hreaches)
  hidden hnot := h.hidden fun hreaches => hnot (hback hreaches)

/-- If nothing but a character to be copied starts at `u`, before `tag`, nothing else starts there
with `tag'` in its place. -/
theorem IsPlain.exchange (htag : IsCompact tag) (htag' : IsCompact tag') {u : List Char}
    (hu : u ≠ []) (h : IsPlain isDirective (u ++ (tag ++ after))) :
    IsPlain isDirective (u ++ (tag' ++ after)) := by
  intro markup rest hread
  rcases Markup.read?_before htag' htag hu hread with ⟨w, -, hread'⟩ | ⟨-, markup', hname, hread'⟩
  · exact h _ _ hread'
  · rw [← hname]
    exact h _ _ hread'

/-- A block that starts before `tag` ends before it, with `w` between, and does so with `tag'`. Or
it ends behind the tag, and then it ends there with `tag'` too if both tags end the same blocks. -/
theorem PassesBlock.exchange (htag : IsCompact tag) (htag' : IsCompact tag') {u end_ : List Char}
    (hu : u ≠ []) (h : PassesBlock (u ++ (tag ++ after)) end_) :
    (∃ w, end_ = w ++ (tag ++ after) ∧ PassesBlock (u ++ (tag' ++ after)) (w ++ (tag' ++ after))) ∨
    end_ <:+ after ∧
      (EndSameBlocks tag tag' after → PassesBlock (u ++ (tag' ++ after)) end_) := by
  obtain ⟨markup, rest, hread, hverbatim, hends⟩ := h
  obtain rfl := blockEnds_iff.1 hends
  -- The tag that opens the block ends before `tag`, or it reaches beyond it.
  rcases Markup.read?_before htag htag' hu hread with
    ⟨w, rfl, hread'⟩ | ⟨hrest, markup', hname, hread'⟩
  -- Likewise for the block itself.
  · rcases afterBlock_before hverbatim htag htag' w after with
      ⟨w', hafter, hafter'⟩ | ⟨hafter, hafter'⟩
    · exact .inl ⟨w', hafter, markup, _, hread', hverbatim, blockEnds_iff.2 hafter'⟩
    · rw [hafter]
      refine .inr ⟨?_, fun hsame => ⟨markup, _, hread', hverbatim, blockEnds_iff.2 ?_⟩⟩
      · rw [afterBlock_tag hverbatim htag]
        split
        · exact List.suffix_refl after
        · obtain ⟨inside, hinside⟩ := (blockEnds_afterBlock markup.name after).exists_eq_append
          exact ⟨inside, hinside.symm⟩
      · rw [hafter', afterBlock_tag hverbatim htag, afterBlock_tag hverbatim htag',
          hsame markup.name hverbatim]
  · obtain ⟨inside, hinside⟩ := hends.exists_eq_append
    have hsuffix : afterBlock markup.name rest <:+ rest := ⟨inside, hinside.symm⟩
    rw [← hname] at hverbatim hends hsuffix ⊢
    exact .inr ⟨hsuffix.trans hrest, fun _ => ⟨markup', rest, hread', hverbatim, hends⟩⟩

/-- A tag in a block is copied with the block, and `tag'` is copied with its space. -/
theorem PassesBlock.sameButForSpace {before end_ : List Char} (hbehind : end_ <:+ after)
    (hpass : PassesBlock (before ++ (tag ++ after)) end_)
    (hpass' : PassesBlock (before ++ (tag' ++ after)) end_) (index : Nat) :
    SameButForSpace isDirective tag tag' after
      (extractFrom isDirective index (before ++ (tag ++ after)))
      (extractFrom isDirective index (before ++ (tag' ++ after))) := by
  obtain ⟨kept, rfl⟩ := hbehind
  have hsplit : ∀ tag : List Char,
      before ++ (tag ++ (kept ++ end_)) = before ++ tag ++ kept ++ end_ := by simp
  rw [hsplit] at hpass hpass' ⊢
  rw [hsplit, hpass.extractFrom_eq, hpass'.extractFrom_eq]
  exact .of_copied before rfl index

/-- A text with `tag` in it and the text with `tag'` in its place are extracted to the same, but for
the space in the tag. -/
theorem TakesSpace.sameButForSpace (htag : IsCompact tag) (htag' : IsCompact tag')
    {before : List Char} (h : TakesSpace isDirective tag tag' after (before ++ (tag ++ after)))
    (index : Nat) :
    SameButForSpace isDirective tag tag' after
      (extractFrom isDirective index (before ++ (tag ++ after)))
      (extractFrom isDirective index (before ++ (tag' ++ after))) := by
  -- Whatever starts before the tag, a shorter text is left before it, or the tag is behind as well.
  induction hlength : before.length using Nat.strongRecOn generalizing before index with
  | ind n ih =>
    subst hlength
    by_cases hbefore : before = []
    · subst hbefore
      exact h.reached (.start _) index
    have hne : tag ++ after ≠ before ++ (tag ++ after) := fun heq =>
      hbefore (List.self_eq_append_left.1 heq)
    by_cases hplain : IsPlain isDirective (before ++ (tag ++ after))
    · have hplain' := hplain.exchange htag htag' hbefore
      obtain ⟨c, before, rfl⟩ := List.exists_cons_of_ne_nil hbefore
      rw [List.cons_append] at hplain hplain' hne h ⊢
      rw [List.cons_append, extractFrom_plain hplain, extractFrom_plain hplain']
      have hrest := h.of_reaches (fun _ => .plain hplain)
        fun hreaches => (hreaches.of_plain hplain).resolve_left hne
      exact (ih before.length (Nat.lt_succ_self _) hrest index rfl).prepend [c] []
    · obtain ⟨markup, rest, hread, hspecial⟩ := exists_read?_of_not_isPlain hplain
      cases hverbatim : isVerbatim markup.name with
      | true =>
        have hpass : PassesBlock (before ++ (tag ++ after)) (afterBlock markup.name rest) :=
          ⟨markup, rest, hread, hverbatim, blockEnds_afterBlock _ _⟩
        rcases hpass.exchange htag htag' hbefore with ⟨w, hends, hpass'⟩ | ⟨hbehind, hpass'⟩
        · -- The block ends before the tag.
          rw [hends] at hpass
          obtain ⟨inside, hinside⟩ := hpass.isSuffix
          rw [← List.append_assoc] at hinside
          obtain rfl := List.append_cancel_right hinside
          have hshorter : w.length < (inside ++ w).length := by
            simpa using hpass.length_lt
          have hrest := h.of_reaches (fun _ => hpass.reaches)
            fun hreaches => (hreaches.of_block hpass).resolve_left hne
          rw [List.append_assoc] at hpass hpass' ⊢
          rw [List.append_assoc, hpass.extractFrom_eq, hpass'.extractFrom_eq]
          exact (ih w.length hshorter hrest index rfl).prepend inside []
        · -- The tag stands in the block, and the scan does not come to it.
          have hnot : ¬ Reaches isDirective (before ++ (tag ++ after)) (tag ++ after) := by
            intro hreaches
            have hplace := ((hreaches.of_block hpass).resolve_left hne).isSuffix
            have hlength := (hplace.trans hbehind).length_le
            rw [List.length_append] at hlength
            have hpos := htag.length_pos
            omega
          exact PassesBlock.sameButForSpace hbehind hpass (hpass' (h.hidden hnot)) index
      | false =>
        have hdirective := hspecial hverbatim
        rcases Markup.read?_before htag htag' hbefore hread with ⟨w, rfl, hread'⟩ | ⟨hbehind, -⟩
        · have hrest := h.of_reaches (fun _ => .directive hread hverbatim hdirective)
            fun hreaches => (hreaches.of_directive hread hverbatim hdirective).resolve_left hne
          have hshorter := Markup.length_lt_of_read? hread
          rw [extractFrom_directive hread hverbatim hdirective,
            extractFrom_directive hread' hverbatim hdirective]
          cases Grammar.arguments markup.arguments with
          | error offending => exact .error _
          | ok items =>
            exact (ih w.length (by simpa using hshorter) hrest (index + 1) rfl).prepend
              (markup.placeholder index) [⟨String.ofList markup.name, items⟩]
        · -- The tag stands in the directive.
          refine absurd ⟨_, markup, rest, .start _, hread, hverbatim, hdirective, ?_, ?_⟩ h.free
          · rw [@List.length_append _ before]
            exact Nat.lt_add_of_pos_left (List.length_pos_iff.2 hbefore)
          · rw [List.length_append]
            exact Nat.lt_of_le_of_lt hbehind.length_le (Nat.lt_add_of_pos_left htag.length_pos)

end Exchange

end Promptbook
