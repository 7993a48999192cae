import Promptbook.Proofs.Directive.Exchange
import Promptbook.Proofs.Directive.Legible

/-!
# A Hyphen Behind the Name of a Tag

A hyphen continues a name, and it also starts a closing delimiter. Directly behind a name it is
taken for a part of the name. What the tag means is then decided for this longer name, while the end
tag of a block may have the hyphen there.

## Main definitions

* `bareTag`: a tag that has only a name, with its blanks and delimiters.

## Main results

* `isSome_afterEndTag?_bareTag`: which of these tags end a block.
* `extract_hyphen`: with the hyphen directly behind the name the text is extracted as if a space
  stood behind the hyphen, and when it is extracted as if the space stood before it.
-/

namespace Promptbook

open Template (IsGap)
open Text (Stops)
open Grammar (IsQuote)

/-- A tag that holds nothing but `name`, with `blanks` before it and `gap` behind it; `trimBefore`
and `trimAfter` tell which of its delimiters have a hyphen. -/
def bareTag (trimBefore : Bool) (blanks name gap : List Char) (trimAfter : Bool) : List Char :=
  Markup.openingText trimBefore ++ (blanks ++ (name ++ (gap ++ Markup.closingText trimAfter)))

section BareTag

variable {trimBefore trimAfter : Bool} {blanks name gap after : List Char}

/-- Without blanks behind `name`, the hyphen of the closing delimiter may as well be counted to the
name: the two tags are the same text. -/
theorem bareTag_hyphen : bareTag trimBefore blanks name [] true =
    bareTag trimBefore blanks (name ++ ['-']) [] false := by
  simp [bareTag, Markup.closingText]

/-- A key `name` with a hyphen behind it is a key. -/
theorem Grammar.IsKey.concat (h : Grammar.IsKey name) : Grammar.IsKey (name ++ ['-']) := by
  obtain ⟨c, rest, rfl, hc, hrest⟩ := h
  refine ⟨c, rest ++ ['-'], rfl, hc, ?_⟩
  rw [List.forall_mem_append, List.forall_mem_singleton]
  exact ⟨hrest, rfl⟩

/-- A bare tag has no quotes and no braces inside of its delimiters. -/
theorem isCompact_bareTag (hblanks : ∀ c ∈ blanks, Text.isPlainSpace c = true)
    (hname : Grammar.IsKey name) (hgap : IsGap gap) :
    IsCompact (bareTag trimBefore blanks name gap trimAfter) := by
  have hkey : ∀ c ∈ name, ¬ IsQuote c ∧ c ≠ '\x7b' ∧ c ≠ '\x7d' := by
    intro c hc
    have hcontinues := hname.continuesKey hc
    refine ⟨?_, ?_, ?_⟩
    · rintro (rfl | rfl) <;> exact absurd hcontinues (by decide)
    all_goals
      rintro rfl
      exact absurd hcontinues (by decide)
  have hplain : ∀ {c}, Text.isPlainSpace c = true → ¬ IsQuote c ∧ c ≠ '\x7b' ∧ c ≠ '\x7d' := by
    intro c hc
    simp only [Text.isPlainSpace, Bool.or_eq_true, beq_iff_eq] at hc
    rcases hc with ((rfl | rfl) | rfl) | rfl <;> simp [IsQuote]
  -- The only braces are the first character of the opening and the last one of the closing
  -- delimiter.
  obtain ⟨front, hfront, hopening⟩ : ∃ front, (∀ c ∈ front, ¬ IsQuote c ∧ c ≠ '\x7b' ∧ c ≠ '\x7d') ∧
      Markup.openingText trimBefore = '\x7b' :: front := by
    cases trimBefore
    · exact ⟨['%'], by simp [IsQuote], rfl⟩
    · exact ⟨['%', '-'], by simp [IsQuote], rfl⟩
  obtain ⟨back, hback, hclosing⟩ : ∃ back, (∀ c ∈ back, ¬ IsQuote c ∧ c ≠ '\x7b' ∧ c ≠ '\x7d') ∧
      Markup.closingText trimAfter = back ++ ['%', '\x7d'] := by
    cases trimAfter
    · exact ⟨[], List.forall_mem_nil _, rfl⟩
    · exact ⟨['-'], by simp [IsQuote], rfl⟩
  refine ⟨front ++ (blanks ++ (name ++ (gap ++ back))), ?_, ?_⟩
  · simp only [List.forall_mem_append]
    exact ⟨hfront, fun c hc => hplain (hblanks c hc), hkey,
      fun c hc => hplain (Template.isPlainSpace_of_isGap (hgap c hc)), hback⟩
  · rw [bareTag, hopening, hclosing]
    simp only [List.cons_append, List.append_assoc]

/-- A bare tag is read to its end, whatever stands `after` it, unless the hyphen of its closing
delimiter stands directly behind `name`. -/
theorem read?_bareTag (hblanks : ∀ c ∈ blanks, Text.isPlainSpace c = true)
    (hname : Grammar.IsKey name) (hgap : IsGap gap) (hapart : gap = [] → trimAfter = false) :
    Markup.read? (bareTag trimBefore blanks name gap trimAfter ++ after) =
      some (⟨trimBefore, name, gap, trimAfter⟩, after) := by
  refine Markup.read?_eq_some.2 ⟨hname, blanks, gap ++ (Markup.closingText trimAfter ++ after),
    hblanks, by simp [bareTag, Markup.opening_eq], ?_, content?_gap hgap trimAfter after⟩
  cases gap with
  | nil =>
    rw [hapart rfl]
    exact Text.stops_cons.2 (by decide)
  | cons c gap =>
    refine Text.stops_cons.2 (Grammar.continuesKey_of_isPlainSpace ?_)
    exact Template.isPlainSpace_of_isGap (hgap c List.mem_cons_self)

/-- No closing delimiter starts inside of a `key` that a blank or a hyphen `c` follows. -/
theorem closing?_of_continuesKey {key s : List Char} (hne : key ≠ [])
    (hkey : ∀ c ∈ key, Grammar.continuesKey c = true) {c : Char}
    (hc : Text.isPlainSpace c = true ∨ c = '-') : Markup.closing? (key ++ c :: s) = none := by
  rw [Option.eq_none_iff_forall_ne_some]
  rintro ⟨trim, rest⟩ hclosing
  have hs := Markup.closing?_eq_some.1 hclosing
  obtain ⟨d, key, rfl⟩ := List.exists_cons_of_ne_nil hne
  cases trim with
  | false =>
    obtain ⟨rfl, -⟩ := List.cons.inj hs
    exact absurd (hkey '%' List.mem_cons_self) (by decide)
  | true =>
    obtain ⟨rfl, htail⟩ := List.cons.inj hs
    cases key with
    | nil =>
      obtain ⟨rfl, -⟩ := List.cons.inj htail
      exact absurd hc (by decide)
    | cons e key =>
      obtain ⟨rfl, -⟩ := List.cons.inj htail
      exact absurd (hkey '%' (by simp)) (by decide)

/-- The search for the end tag of `block` accepts a `name` before a blank or a hyphen only if it is
complete: `end` and then the name of the block. -/
theorem eq_of_afterEndName? {block s rest : List Char} (hverbatim : isVerbatim block = true)
    (hblanks : ∀ c ∈ blanks, Text.isPlainSpace c = true) (hname : Grammar.IsKey name) {c : Char}
    (hc : Text.isPlainSpace c = true ∨ c = '-')
    (h : afterEndName? block (blanks ++ name ++ c :: s) = some rest) :
    name = "end".toList ++ block := by
  obtain ⟨behind, hbehind, h⟩ := Option.bind_eq_some_iff.1 h
  obtain ⟨⟨trim, rest'⟩, hclosing, rfl⟩ := Option.map_eq_some_iff.1 h
  have hfirst : Stops Text.isSpace (name ++ c :: s) := by
    obtain ⟨first, more, rfl, hfirst, -⟩ := hname
    exact Text.stops_cons.2 (isSpace_of_continuesKey (Grammar.continuesKey_of_startsKey hfirst))
  rw [List.append_assoc, Text.dropSpace, Text.dropWhile_append_of_stops
    (fun c hc => Text.isSpace_of_isPlainSpace (hblanks c hc)) hfirst,
    Text.restAfter?_eq_some] at hbehind
  -- What is behind the name does not stand in the words of an end tag.
  have hletters : ("end".toList ++ block).all (fun d => !Text.isPlainSpace d && d != '-') := by
    rcases eq_of_isVerbatim hverbatim with rfl | rfl <;> rfl
  have hforeign : c ∉ "end".toList ++ block := by
    intro hmem
    have hletter := List.all_eq_true.1 hletters c hmem
    rcases hc with hc | rfl
    · simp [hc] at hletter
    · exact absurd hletter (by decide)
  obtain ⟨more, rfl, rfl⟩ := exists_of_append_cons_eq_append hbehind hforeign
  cases more with
  | nil => exact List.append_nil _
  | cons d more =>
    have hmore : ∀ e ∈ d :: more, Grammar.continuesKey e = true :=
      fun e he => hname.continuesKey (List.mem_append_right _ he)
    have hstops : Stops Text.isSpace (d :: more ++ c :: s) :=
      Text.stops_cons.2 (isSpace_of_continuesKey (hmore d List.mem_cons_self))
    have hdropped : Text.dropSpace (d :: more ++ c :: s) = d :: more ++ c :: s :=
      @Text.dropWhile_append_of_stops _ [] _ (List.forall_mem_nil _) hstops
    rw [hdropped, closing?_of_continuesKey (List.cons_ne_nil d more) hmore hc] at hclosing
    cases hclosing

/-- A bare tag ends `block` exactly if its `name` is `end` and then the name of the block. -/
theorem isSome_afterEndTag?_bareTag {block : List Char} (hverbatim : isVerbatim block = true)
    (hblanks : ∀ c ∈ blanks, Text.isPlainSpace c = true) (hname : Grammar.IsKey name)
    (hgap : IsGap gap) :
    (afterEndTag? block (bareTag trimBefore blanks name gap true ++ after)).isSome = true ↔
      name = "end".toList ++ block := by
  constructor
  · intro hsome
    obtain ⟨rest, hrest⟩ := Option.isSome_iff_exists.1 hsome
    -- Behind the name there is a blank, or the hyphen of the delimiter.
    obtain ⟨c, s, hbehind, hc⟩ : ∃ c s, gap ++ Markup.closingText true ++ after = c :: s ∧
        (Text.isPlainSpace c = true ∨ c = '-') := by
      cases gap with
      | nil => exact ⟨'-', _, rfl, .inr rfl⟩
      | cons c gap =>
        exact ⟨c, _, rfl, .inl (Template.isPlainSpace_of_isGap (hgap c List.mem_cons_self))⟩
    have htag : bareTag trimBefore blanks name gap true ++ after =
        Markup.openingText trimBefore ++ (blanks ++ name ++ c :: s) := by
      rw [← hbehind, bareTag]
      simp only [List.append_assoc]
    rw [htag] at hrest
    have hfound : afterEndName? block (blanks ++ name ++ c :: s) = some rest := by
      cases trimBefore with
      | true => exact hrest
      | false =>
        exact (afterEndTag?_untrimmed (Markup.ne_hyphen_of_isKey hblanks hname _)).symm.trans hrest
    exact eq_of_afterEndName? hverbatim hblanks hname hc hfound
  · rintro rfl
    refine Option.isSome_iff_exists.2 ⟨after, afterEndTag?_eq_some.2 ⟨_, ⟨trimBefore, true, blanks,
      gap, ?_, ?_, rfl⟩, ?_⟩⟩
    · exact fun c hc => Text.isSpace_of_isPlainSpace (hblanks c hc)
    · exact fun c hc => Text.isSpace_of_isPlainSpace (Template.isPlainSpace_of_isGap (hgap c hc))
    · simp [bareTag]

/-- A space behind the hyphen makes no difference to which blocks a bare tag ends. -/
theorem endSameBlocks_bareTag (hblanks : ∀ c ∈ blanks, Text.isPlainSpace c = true)
    (hname : Grammar.IsKey name) :
    EndSameBlocks (bareTag trimBefore blanks name [] true)
      (bareTag trimBefore blanks name [' '] true) after := by
  intro block hverbatim
  have hnone : IsGap [] := List.forall_mem_nil _
  have hspace : IsGap [' '] := by simp [IsGap, Template.isGap]
  rw [Bool.eq_iff_iff, isSome_afterEndTag?_bareTag hverbatim hblanks hname hnone,
    isSome_afterEndTag?_bareTag hverbatim hblanks hname hspace]

end BareTag

/-- The text `s` is plain where the tag read at its start is named like neither a directive nor a
block that is left alone. -/
theorem isPlain_of_read? {isDirective : String → Bool} {s rest : List Char} {markup : Markup}
    (hread : Markup.read? s = some (markup, rest)) (hverbatim : isVerbatim markup.name = false)
    (hdirective : isDirective (String.ofList markup.name) = false) : IsPlain isDirective s := by
  intro markup' rest' hread'
  cases hread.symm.trans hread'
  exact ⟨hverbatim, hdirective⟩

/-- If both `tag` and `tag'` are copied, the extractions are the same but for the space that stands
at the tag. -/
theorem sameButForSpace_of_isPlain {isDirective : String → Bool} {tag tag' after : List Char}
    (htag : IsCompact tag) (htag' : IsCompact tag') (hplain : IsPlain isDirective (tag ++ after))
    (hplain' : IsPlain isDirective (tag' ++ after)) (index : Nat) :
    SameButForSpace isDirective tag tag' after (extractFrom isDirective index (tag ++ after))
      (extractFrom isDirective index (tag' ++ after)) := by
  have hcopied : ∀ found : Extraction, ∀ tag : List Char,
      [] ++ tag ++ [] ++ found.template = tag ++ found.template := by simp
  rw [extractFrom_tag htag hplain, extractFrom_tag htag' hplain']
  simpa only [hcopied] using SameButForSpace.of_copied [] (List.nil_append after).symm index

section Hyphen

variable {isDirective : String → Bool} {before place : List Char}

/-- If there is no brace in `before`, the scan comes to the `place` behind it. -/
theorem reaches_append_of_unopened (h : '\x7b' ∉ before) :
    Reaches isDirective (before ++ place) place := by
  induction before with
  | nil => exact .start place
  | cons c before ih =>
    have hplain : IsPlain isDirective (c :: (before ++ place)) :=
      isPlain_of_ne fun t ht => h ((List.cons.inj ht).1 ▸ List.mem_cons_self)
    exact .plain hplain (ih fun hmem => h (List.mem_cons_of_mem _ hmem))

/-- If there is no brace in `before`, no directive starts in it that could reach to the `place`
behind. -/
theorem not_standsInDirective_of_unopened (h : '\x7b' ∉ before) :
    ¬ StandsInDirective isDirective (before ++ place) place := by
  rintro ⟨earlier, markup, rest, hreaches, hread, -, -, hlonger, -⟩
  obtain ⟨passed, hpassed⟩ := hreaches.isSuffix
  rcases List.append_eq_append_iff.1 hpassed with ⟨w, rfl, rfl⟩ | ⟨w, -, rfl⟩
  · -- The tag of the directive starts with a brace in front of the place.
    cases w with
    | nil => exact Nat.lt_irrefl _ hlonger
    | cons c w =>
      have hc : c = '\x7b' := by
        obtain ⟨-, blanks, behind, -, hs, -⟩ := Markup.read?_eq_some.1 hread
        rw [Markup.opening_eq] at hs
        cases htrim : markup.trimBefore <;> rw [htrim] at hs <;> exact (List.cons.inj hs).1
      subst hc
      exact h (by simp)
  · rw [List.length_append] at hlonger
    omega

/-- A hyphen directly behind the `name` of a tag is read as a part of the name, and not of the
closing delimiter. The text is extracted as if a space stood behind the hyphen, as in `{% name- %}`.
It is extracted as if the space stood before the hyphen, as in `{% name -%}`, if the scan does not
come to the tag, or if neither `name` nor `name-` is that of a directive or of a block that is left
alone. -/
theorem extract_hyphen (isDirective : String → Bool) (before after : List Char)
    {blanks name : List Char} (trim : Bool) (hblanks : ∀ c ∈ blanks, Text.isPlainSpace c = true)
    (hname : Grammar.IsKey name)
    (hfree : ¬ StandsInDirective isDirective (before ++ (bareTag trim blanks name [] true ++ after))
      (bareTag trim blanks name [] true ++ after)) :
    let joined := bareTag trim blanks name [] true
    let spacedBehind := bareTag trim blanks (name ++ ['-']) [' '] false
    let spacedBefore := bareTag trim blanks name [' '] true
    Markup.read? (joined ++ after) = some (⟨trim, name ++ ['-'], [], false⟩, after) ∧
      (Reaches isDirective (before ++ (joined ++ after)) (joined ++ after) →
        SameButForSpace isDirective joined spacedBehind after
          (extract isDirective (String.ofList (before ++ (joined ++ after))))
          (extract isDirective (String.ofList (before ++ (spacedBehind ++ after))))) ∧
      ((Reaches isDirective (before ++ (joined ++ after)) (joined ++ after) →
          isVerbatim name = false ∧ isDirective (String.ofList name) = false ∧
            isDirective (String.ofList (name ++ ['-'])) = false) →
        SameButForSpace isDirective joined spacedBefore after
          (extract isDirective (String.ofList (before ++ (joined ++ after))))
          (extract isDirective (String.ofList (before ++ (spacedBefore ++ after))))) := by
  intro joined spacedBehind spacedBefore
  have hspace : IsGap [' '] := by simp [IsGap, Template.isGap]
  have hjoined : IsCompact joined := isCompact_bareTag hblanks hname (List.forall_mem_nil _)
  have hread : Markup.read? (joined ++ after) = some (⟨trim, name ++ ['-'], [], false⟩, after) := by
    show Markup.read? (bareTag trim blanks name [] true ++ after) = _
    rw [bareTag_hyphen]
    exact read?_bareTag hblanks hname.concat (List.forall_mem_nil _) fun _ => rfl
  have hreadBehind : Markup.read? (spacedBehind ++ after) =
      some (⟨trim, name ++ ['-'], [' '], false⟩, after) :=
    read?_bareTag hblanks hname.concat hspace fun heq => absurd heq (List.cons_ne_nil _ _)
  have hreadBefore : Markup.read? (spacedBefore ++ after) =
      some (⟨trim, name, [' '], true⟩, after) :=
    read?_bareTag hblanks hname hspace fun heq => absurd heq (List.cons_ne_nil _ _)
  have hverbatim := isVerbatim_concat name
  simp only [extract, String.toList_ofList]
  refine ⟨hread, fun hreaches => ?_, fun hordinary => ?_⟩
  · -- The scan comes to the tag, which is not in a block then.
    have hspaced : IsCompact spacedBehind := isCompact_bareTag hblanks hname.concat hspace
    refine TakesSpace.sameButForSpace hjoined hspaced
      ⟨hfree, fun _ index => ?_, fun hnot => absurd hreaches hnot⟩ 0
    cases hdirective : isDirective (String.ofList (name ++ ['-'])) with
    | false =>
      exact sameButForSpace_of_isPlain hjoined hspaced
        (isPlain_of_read? hread hverbatim hdirective)
        (isPlain_of_read? hreadBehind hverbatim hdirective) index
    | true =>
      -- Both tags are replaced by the same placeholder.
      have harguments : Grammar.arguments [' '] = Grammar.arguments [] := rfl
      have hsame : extractFrom isDirective index (joined ++ after) =
          extractFrom isDirective index (spacedBehind ++ after) := by
        rw [extractFrom_directive hread hverbatim hdirective,
          extractFrom_directive hreadBehind hverbatim hdirective, harguments]
        rfl
      rw [hsame]
      exact .refl _
  · have hspaced : IsCompact spacedBefore := isCompact_bareTag hblanks hname hspace
    refine TakesSpace.sameButForSpace hjoined hspaced
      ⟨hfree, fun hreaches index => ?_, fun _ => ?_⟩ 0
    · obtain ⟨hname', hdirective, hdirective'⟩ := hordinary hreaches
      exact sameButForSpace_of_isPlain hjoined hspaced
        (isPlain_of_read? hread hverbatim hdirective')
        (isPlain_of_read? hreadBefore hname' hdirective) index
    · exact endSameBlocks_bareTag hblanks hname

/-- A tag with a hyphen behind the name `done` of a directive is not one of the directive, and if
`echo` is the only directive, the tag means the same with the space on either side. -/
theorem extract_hyphen_done :
    SameButForSpace (· == "done") (bareTag false [' '] "done".toList [] true)
        (bareTag false [' '] "done-".toList [' '] false) ['!']
        (extract (· == "done") "Say {% done-%}!") (extract (· == "done") "Say {% done- %}!") ∧
      SameButForSpace (· == "echo") (bareTag false [' '] "done".toList [] true)
        (bareTag false [' '] "done".toList [' '] true) ['!']
        (extract (· == "echo") "Say {% done-%}!") (extract (· == "echo") "Say {% done -%}!") := by
  have hkey : Grammar.IsKey "done".toList := ⟨'d', "one".toList, rfl, rfl, List.all_eq_true.1 rfl⟩
  have hblank : ∀ c ∈ [' '], Text.isPlainSpace c = true := List.forall_mem_singleton.2 rfl
  have hunopened : '\x7b' ∉ "Say ".toList := by decide +kernel
  obtain ⟨-, hbehind, -⟩ := extract_hyphen (· == "done") "Say ".toList "!".toList false hblank hkey
    (not_standsInDirective_of_unopened hunopened)
  obtain ⟨-, -, hbefore⟩ := extract_hyphen (· == "echo") "Say ".toList "!".toList false hblank hkey
    (not_standsInDirective_of_unopened hunopened)
  exact ⟨hbehind (reaches_append_of_unopened hunopened), hbefore fun _ => by decide⟩

/-- A space before the hyphen of `{% done-%}` brings back the directive, and before that of
`{% raw-%}` the start of a raw block: the extractions do not even have the same directives. -/
theorem not_sameButForSpace_of_hyphen :
    ¬ SameButForSpace (· == "done") (bareTag false [' '] "done".toList [] true)
        (bareTag false [' '] "done".toList [' '] true) []
        (extract (· == "done") "{% done-%}") (extract (· == "done") "{% done -%}") ∧
      ¬ SameButForSpace (· == "done") (bareTag false [' '] "raw".toList [] true)
        (bareTag false [' '] "raw".toList [' '] true) "{% done %}{% endraw %}".toList
        (extract (· == "done") "{% raw-%}{% done %}{% endraw %}")
        (extract (· == "done") "{% raw -%}{% done %}{% endraw %}") ∧
      (extract (· == "done") "{% done-%}").map Extraction.occurrences ≠
        (extract (· == "done") "{% done -%}").map Extraction.occurrences ∧
      (extract (· == "done") "{% raw-%}{% done %}{% endraw %}").map Extraction.occurrences ≠
        (extract (· == "done") "{% raw -%}{% done %}{% endraw %}").map Extraction.occurrences := by
  have hdone : (extract (· == "done") "{% done-%}").map Extraction.occurrences ≠
      (extract (· == "done") "{% done -%}").map Extraction.occurrences := by
    decide +kernel
  have hraw : (extract (· == "done") "{% raw-%}{% done %}{% endraw %}").map
        Extraction.occurrences ≠
      (extract (· == "done") "{% raw -%}{% done %}{% endraw %}").map Extraction.occurrences := by
    decide +kernel
  exact ⟨fun h => hdone h.map_occurrences, fun h => hraw h.map_occurrences, hdone, hraw⟩

end Hyphen

end Promptbook
