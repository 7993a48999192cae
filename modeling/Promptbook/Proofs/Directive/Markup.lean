import Promptbook.Directive.Extraction
import Promptbook.Proofs.Directive.Readers

/-!
# Tags and Blocks in a Text

How a tag that is read is written, and where a block that is left alone ends. A tag is complete in
itself: what follows it has no part in how it is read.

## Main definitions

* `IsEndTag`: the texts that end a raw block or comment.
* `BlockEnds`: where a block ends, which is behind its first end tag or at the end of the text.

## Main results

* `Markup.read?_eq_some`: what is read as a tag.
* `Markup.exists_spelling`: a tag is written as its parts one after the other, and is read as the
  same tag when it stands alone.
* `blockEnds_iff`: the end of a block is what the search for it finds.
-/

namespace Promptbook

open Text (Stops)

namespace Markup

/-- The opening delimiter, with a hyphen if `trim` holds. -/
def openingText (trim : Bool) : List Char :=
  if trim then ['\x7b', '%', '-'] else ['\x7b', '%']

/-- The closing delimiter, with a hyphen if `trim` holds. -/
def closingText (trim : Bool) : List Char :=
  if trim then ['-', '%', '\x7d'] else ['%', '\x7d']

theorem opening_eq (markup : Markup) : markup.opening = openingText markup.trimBefore := rfl

theorem closing_eq (markup : Markup) : markup.closing = closingText markup.trimAfter := rfl

/-- A closing delimiter is read from `s` exactly if one stands at its start, and then `rest` is what
follows. -/
theorem closing?_eq_some {s rest : List Char} {trim : Bool} :
    closing? s = some (trim, rest) ↔ s = closingText trim ++ rest := by
  constructor
  · intro h
    unfold closing? at h
    split at h
    · obtain ⟨rfl, rfl⟩ := by simpa using h
      rfl
    · obtain ⟨rfl, rfl⟩ := by simpa using h
      rfl
    · cases h
  · rintro rfl
    cases trim <;> rfl

/-- No quote stands at the start of a closing delimiter. -/
theorem quoted?_closingText (trim : Bool) (rest : List Char) :
    Grammar.quoted? (closingText trim ++ rest) = none := by
  cases trim <;> rfl

section Content

variable {s text rest : List Char} {trim : Bool}

/-- A text `inner` in quotes is taken over into the content as a whole. -/
theorem content?_quoted {quote : Char} {inner : List Char} (hquote : Grammar.IsQuote quote)
    (hmem : quote ∉ inner) :
    content? (quote :: (inner ++ quote :: rest)) =
      (content? rest).map fun (text, end_) => (quote :: (inner ++ quote :: text), end_) := by
  have hquoted : Grammar.quoted? (quote :: (inner ++ quote :: rest)) = some (inner, rest) :=
    Grammar.quoted?_eq_some.2 ⟨quote, hquote, hmem, rfl⟩
  have hsplit : quote :: (inner ++ quote :: rest) = quote :: (inner ++ [quote]) ++ rest := by
    simp
  have htake : (quote :: (inner ++ quote :: rest)).take
      ((quote :: (inner ++ quote :: rest)).length - rest.length) = quote :: (inner ++ [quote]) := by
    rw [hsplit, List.length_append, Nat.add_sub_cancel, List.take_left]
  rw [content?]
  split
  · rename_i hfound
    rw [hquoted] at hfound
    cases hfound
    rw [htake]
    simp only [List.cons_append, List.append_assoc, List.nil_append]
  · rename_i hfound
    rw [hquoted] at hfound
    cases hfound

/-- The content ends at a closing delimiter. -/
theorem content?_closingText (trim : Bool) (rest : List Char) :
    content? (closingText trim ++ rest) = some ([], trim, rest) := by
  rw [content?]
  split
  · rename_i hfound
    rw [quoted?_closingText] at hfound
    cases hfound
  · rw [closing?_eq_some.2 rfl]

/-- A character `c` where neither a text in quotes nor a closing delimiter starts is part of the
content. -/
theorem content?_cons {c : Char} (hquoted : Grammar.quoted? (c :: s) = none)
    (hclosing : closing? (c :: s) = none) :
    content? (c :: s) = (content? s).map fun (text, end_) => (c :: text, end_) := by
  rw [content?]
  split
  · rename_i hfound
    rw [hquoted] at hfound
    cases hfound
  · rw [hclosing]

/-- A text without a closing delimiter is no content. -/
theorem content?_nil : content? [] = none := by
  rw [content?]
  rfl

/-- If no text in quotes starts in `s ++ t`, none starts in `s` alone. -/
theorem quoted?_eq_none_of_append {s t : List Char} (h : Grammar.quoted? (s ++ t) = none) :
    Grammar.quoted? s = none := by
  cases hs : Grammar.quoted? s with
  | none => rfl
  | some found =>
    obtain ⟨text, rest⟩ := found
    obtain ⟨quote, hquote, hmem, rfl⟩ := Grammar.quoted?_eq_some.1 hs
    have hwhole : Grammar.quoted? (quote :: (text ++ quote :: rest) ++ t) =
        some (text, rest ++ t) :=
      Grammar.quoted?_eq_some.2 ⟨quote, hquote, hmem, by simp⟩
    rw [hwhole] at h
    cases h

/-- If no closing delimiter stands at the start of `s ++ t`, none stands at the start of `s`
alone. -/
theorem closing?_eq_none_of_append {s t : List Char} (h : closing? (s ++ t) = none) :
    closing? s = none := by
  cases hs : closing? s with
  | none => rfl
  | some found =>
    obtain ⟨trim, rest⟩ := found
    have hwhole : closing? (s ++ t) = some (trim, rest ++ t) :=
      closing?_eq_some.2 (by rw [closing?_eq_some.1 hs, List.append_assoc])
    rw [hwhole] at h
    cases h

/-- The content `text` is followed by its closing delimiter, and it is the same content if nothing
follows the delimiter. A quote that is closed is closed before the delimiter, and a quote that is
not closed finds no partner in a shorter text either. -/
theorem content?_eq_some (h : content? s = some (text, trim, rest)) :
    s = text ++ closingText trim ++ rest ∧
      content? (text ++ closingText trim) = some (text, trim, []) := by
  induction s using content?.induct generalizing text trim rest with
  | case1 s inner behind hquoted ih =>
    obtain ⟨quote, hquote, hmem, rfl⟩ := Grammar.quoted?_eq_some.1 hquoted
    rw [content?_quoted hquote hmem] at h
    obtain ⟨⟨text', trim', rest'⟩, hcontent, heq⟩ := Option.map_eq_some_iff.1 h
    simp only [Prod.mk.injEq] at heq
    obtain ⟨rfl, rfl, rfl⟩ := heq
    obtain ⟨hbehind, halone⟩ := ih hcontent
    refine ⟨by simp [hbehind], ?_⟩
    have hsplit : quote :: (inner ++ quote :: text') ++ closingText trim' =
        quote :: (inner ++ quote :: (text' ++ closingText trim')) := by simp
    rw [hsplit, content?_quoted hquote hmem, halone]
    rfl
  | case2 s hquoted trim' rest' hclosing =>
    rw [closing?_eq_some.1 hclosing, content?_closingText] at h
    cases h
    refine ⟨closing?_eq_some.1 hclosing, ?_⟩
    have hend := content?_closingText trim' []
    rwa [List.append_nil] at hend
  | case3 hquoted hclosing =>
    rw [content?_nil] at h
    cases h
  | case4 c tail hquoted hclosing ih =>
    rw [content?_cons hquoted hclosing] at h
    obtain ⟨⟨text', trim', rest'⟩, hcontent, heq⟩ := Option.map_eq_some_iff.1 h
    simp only [Prod.mk.injEq] at heq
    obtain ⟨rfl, rfl, rfl⟩ := heq
    obtain ⟨htail, halone⟩ := ih hcontent
    refine ⟨by simp [htail], ?_⟩
    -- The character starts neither a quoted text nor a delimiter, whether the text goes on or not.
    rw [htail, ← List.cons_append] at hquoted hclosing
    rw [List.cons_append, content?_cons (quoted?_eq_none_of_append hquoted)
      (closing?_eq_none_of_append hclosing), halone]
    rfl

end Content

section Reading

variable {s rest : List Char} {markup : Markup}

/-- Read a tag from the text `s` behind its opening delimiter, which has a hyphen if `trim`
holds. -/
def inside? (trim : Bool) (s : List Char) : Option (Markup × List Char) := do
  let (name, rest) ← Grammar.key? (Grammar.dropBlank s)
  let (arguments, trimAfter, rest) ← content? rest
  return (⟨trim, name, arguments, trimAfter⟩, rest)

/-- A hyphen behind `{%` belongs to the delimiter. -/
theorem read?_trimmed (s : List Char) : read? ('\x7b' :: '%' :: '-' :: s) = inside? true s := rfl

/-- If `s` does not start with a hyphen, the tag goes on right behind `{%`. -/
theorem read?_untrimmed (h : ∀ tail, s ≠ '-' :: tail) :
    read? ('\x7b' :: '%' :: s) = inside? false s := by
  -- The longer delimiter is ruled out by what is known of the text.
  unfold read?
  simp only
  rfl

/-- Behind its opening delimiter a tag has blanks, its name, which ends where `behind` is foreign to
names, and its content. -/
theorem inside?_eq_some {trim : Bool} :
    inside? trim s = some (markup, rest) ↔
      markup.trimBefore = trim ∧ Grammar.IsKey markup.name ∧
        ∃ blanks behind, (∀ c ∈ blanks, Text.isPlainSpace c = true) ∧
          s = blanks ++ markup.name ++ behind ∧ Stops Grammar.continuesKey behind ∧
            content? behind = some (markup.arguments, markup.trimAfter, rest) := by
  constructor
  · intro h
    obtain ⟨⟨name, behind⟩, hkey, h⟩ := Option.bind_eq_some_iff.1 h
    obtain ⟨⟨arguments, trimAfter, rest'⟩, hcontent, h⟩ := Option.bind_eq_some_iff.1 h
    cases h
    obtain ⟨hname, hdropped, hstops⟩ := Grammar.key?_eq_some.1 hkey
    obtain ⟨blanks, hblanks, hs⟩ := Text.exists_eq_append_dropWhile Text.isPlainSpace s
    rw [← Grammar.dropBlank, hdropped, ← List.append_assoc] at hs
    exact ⟨rfl, hname, blanks, behind, hblanks, hs, hstops, hcontent⟩
  · rintro ⟨rfl, hname, blanks, behind, hblanks, rfl, hstops, hcontent⟩
    have hkey : Grammar.key? (markup.name ++ behind) = some (markup.name, behind) :=
      Grammar.key?_eq_some.2 ⟨hname, rfl, hstops⟩
    -- A key starts with no blank, so the blanks that are dropped are just those in front of it.
    have hfirst : Stops Text.isPlainSpace (markup.name ++ behind) := by
      obtain ⟨c, more, hcons, hc, -⟩ := hname
      rw [hcons, List.cons_append, Text.stops_cons]
      exact Grammar.isPlainSpace_of_startsKey hc
    rw [inside?, List.append_assoc, Grammar.dropBlank_append hblanks hfirst, hkey]
    simp [hcontent]

/-- Neither `blanks` nor a key starts with the hyphen of the longer opening delimiter. -/
theorem ne_hyphen_of_isKey {blanks name : List Char}
    (hblanks : ∀ c ∈ blanks, Text.isPlainSpace c = true) (hname : Grammar.IsKey name)
    (behind tail : List Char) : blanks ++ name ++ behind ≠ '-' :: tail := by
  intro htail
  cases blanks with
  | nil =>
    obtain ⟨c, more, hcons, hc, -⟩ := hname
    rw [hcons] at htail
    obtain ⟨rfl, -⟩ := List.cons.inj htail
    exact absurd hc (by decide)
  | cons c blanks =>
    obtain ⟨rfl, -⟩ := List.cons.inj htail
    exact absurd (hblanks _ List.mem_cons_self) (by decide)

/-- A tag is read from its opening delimiter, blanks, a name up to the first character that is
foreign to names, and content up to a closing delimiter. -/
theorem read?_eq_some :
    read? s = some (markup, rest) ↔
      Grammar.IsKey markup.name ∧
        ∃ blanks behind, (∀ c ∈ blanks, Text.isPlainSpace c = true) ∧
          s = markup.opening ++ (blanks ++ markup.name ++ behind) ∧
            Stops Grammar.continuesKey behind ∧
              content? behind = some (markup.arguments, markup.trimAfter, rest) := by
  constructor
  · intro h
    unfold read? at h
    simp only at h
    -- The longer delimiter is tried first; what stands behind either is `inside?`.
    split at h
    · obtain ⟨htrim, hname, blanks, behind, hblanks, rfl, hstops, hcontent⟩ := inside?_eq_some.1 h
      exact ⟨hname, blanks, behind, hblanks, by rw [opening_eq, htrim]; rfl, hstops, hcontent⟩
    · obtain ⟨htrim, hname, blanks, behind, hblanks, rfl, hstops, hcontent⟩ := inside?_eq_some.1 h
      exact ⟨hname, blanks, behind, hblanks, by rw [opening_eq, htrim]; rfl, hstops, hcontent⟩
    · cases h
  · rintro ⟨hname, blanks, behind, hblanks, rfl, hstops, hcontent⟩
    have hinside :=
      inside?_eq_some.2 ⟨rfl, hname, blanks, behind, hblanks, rfl, hstops, hcontent⟩
    rw [opening_eq]
    cases htrim : markup.trimBefore with
    | true =>
      rw [htrim] at hinside
      exact (read?_trimmed _).trans hinside
    | false =>
      rw [htrim] at hinside
      exact (read?_untrimmed (ne_hyphen_of_isKey hblanks hname behind)).trans hinside

/-- A tag that is read from `s` stands there as its parts one after the other, with blanks before
the name. It is read as the same `markup` if nothing follows it. -/
theorem exists_spelling (h : read? s = some (markup, rest)) :
    ∃ blanks, (∀ c ∈ blanks, Text.isPlainSpace c = true) ∧
      s = markup.opening ++ blanks ++ markup.name ++ markup.arguments ++ markup.closing ++ rest ∧
        read? (markup.opening ++ blanks ++ markup.name ++ markup.arguments ++ markup.closing) =
          some (markup, []) := by
  obtain ⟨hname, blanks, behind, hblanks, rfl, hstops, hcontent⟩ := read?_eq_some.1 h
  obtain ⟨rfl, halone⟩ := content?_eq_some hcontent
  refine ⟨blanks, hblanks, by simp [closing_eq], ?_⟩
  -- The name stops where it did, since the closing delimiter is still there.
  have hstops' : Stops Grammar.continuesKey
      (markup.arguments ++ closingText markup.trimAfter) := by
    cases harguments : markup.arguments with
    | nil =>
      rw [harguments] at hstops
      cases htrim : markup.trimAfter <;> rw [htrim] at hstops <;> exact hstops
    | cons c arguments =>
      rw [harguments] at hstops
      exact Text.stops_cons.2 (Text.stops_cons.1 hstops)
  refine read?_eq_some.2 ⟨hname, blanks, _, hblanks, ?_, hstops', halone⟩
  rw [closing_eq]
  simp only [List.append_assoc]

end Reading

end Markup

section Blocks

variable {block s rest : List Char}

/-- The blocks that are left alone are `raw` and `comment`. -/
theorem eq_of_isVerbatim {name : List Char} (h : isVerbatim name = true) :
    name = "raw".toList ∨ name = "comment".toList := by
  simpa [isVerbatim] using h

/-- The text `tag` is an end tag of `block`: `end` and the name of the block between delimiters,
with white space around them. -/
def IsEndTag (block tag : List Char) : Prop :=
  ∃ trimBefore trimAfter before after,
    (∀ c ∈ before, Text.isSpace c = true) ∧ (∀ c ∈ after, Text.isSpace c = true) ∧
      tag = Markup.openingText trimBefore ++ (before ++ ("end".toList ++ block ++ (after ++
        Markup.closingText trimAfter)))

/-- What is left of an end tag of `block` behind its opening delimiter. -/
def afterEndName? (block s : List Char) : Option (List Char) :=
  (Text.restAfter? ("end".toList ++ block) (Text.dropSpace s)).bind fun rest =>
    (Markup.closing? (Text.dropSpace rest)).map fun found => found.2

/-- An end tag goes on behind its opening delimiter with `end` and the name of `block`, white space
around them, and a closing delimiter. -/
theorem afterEndName?_eq_some :
    afterEndName? block s = some rest ↔
      ∃ trim before after,
        (∀ c ∈ before, Text.isSpace c = true) ∧ (∀ c ∈ after, Text.isSpace c = true) ∧
          s = before ++ ("end".toList ++ block ++ (after ++ Markup.closingText trim)) ++ rest := by
  constructor
  · intro h
    obtain ⟨behind, hbehind, h⟩ := Option.bind_eq_some_iff.1 h
    obtain ⟨⟨trim, rest'⟩, hclosing, rfl⟩ := Option.map_eq_some_iff.1 h
    obtain ⟨before, hbefore, hs⟩ := Text.exists_eq_append_dropWhile Text.isSpace s
    obtain ⟨after, hafter, hrest⟩ := Text.exists_eq_append_dropWhile Text.isSpace behind
    rw [← Text.dropSpace, Text.restAfter?_eq_some.1 hbehind] at hs
    rw [← Text.dropSpace, Markup.closing?_eq_some.1 hclosing] at hrest
    refine ⟨trim, before, after, hbefore, hafter, ?_⟩
    rw [hs, hrest]
    simp only [List.append_assoc]
  · rintro ⟨trim, before, after, hbefore, hafter, rfl⟩
    -- Neither the name nor the delimiter starts with white space.
    have hname : Stops Text.isSpace
        ("end".toList ++ block ++ (after ++ Markup.closingText trim) ++ rest) :=
      Text.stops_cons.2 (by decide)
    have hclosing : Stops Text.isSpace (Markup.closingText trim ++ rest) := by
      cases trim <;> exact Text.stops_cons.2 (by decide)
    have hbehind : Text.dropSpace (after ++ (Markup.closingText trim ++ rest)) =
        Markup.closingText trim ++ rest :=
      Text.dropWhile_append_of_stops hafter hclosing
    rw [afterEndName?, List.append_assoc, Text.dropSpace,
      Text.dropWhile_append_of_stops hbefore hname]
    rw [List.append_assoc, Text.restAfter?_eq_some.2 rfl, Option.bind_some, List.append_assoc,
      hbehind, Markup.closing?_eq_some.2 rfl]
    rfl

/-- A hyphen behind `{%` belongs to the delimiter of an end tag. -/
theorem afterEndTag?_trimmed (block s : List Char) :
    afterEndTag? block ('\x7b' :: '%' :: '-' :: s) = afterEndName? block s := rfl

/-- If `s` does not start with a hyphen, the end tag goes on right behind `{%`. -/
theorem afterEndTag?_untrimmed (h : ∀ tail, s ≠ '-' :: tail) :
    afterEndTag? block ('\x7b' :: '%' :: s) = afterEndName? block s := by
  unfold afterEndTag?
  simp only
  rfl

/-- An end tag of `block` is found at the start of `s` exactly if one stands there, and then `rest`
is what follows. -/
theorem afterEndTag?_eq_some :
    afterEndTag? block s = some rest ↔ ∃ tag, IsEndTag block tag ∧ s = tag ++ rest := by
  constructor
  · intro h
    unfold afterEndTag? at h
    simp only at h
    split at h
    · obtain ⟨trim, before, after, hbefore, hafter, rfl⟩ := afterEndName?_eq_some.1 h
      exact ⟨_, ⟨true, trim, before, after, hbefore, hafter, rfl⟩, by simp [Markup.openingText]⟩
    · obtain ⟨trim, before, after, hbefore, hafter, rfl⟩ := afterEndName?_eq_some.1 h
      exact ⟨_, ⟨false, trim, before, after, hbefore, hafter, rfl⟩, by simp [Markup.openingText]⟩
    · cases h
  · rintro ⟨tag, ⟨trimBefore, trimAfter, before, after, hbefore, hafter, rfl⟩, rfl⟩
    have hinside : afterEndName? block (before ++ ("end".toList ++ block ++ (after ++
        Markup.closingText trimAfter)) ++ rest) = some rest :=
      afterEndName?_eq_some.2 ⟨trimAfter, before, after, hbefore, hafter, rfl⟩
    cases trimBefore with
    | true => exact (afterEndTag?_trimmed _ _).trans hinside
    | false =>
      -- Neither white space nor the name of the tag is the hyphen of the longer delimiter.
      have hhyphen : ∀ tail, before ++ ("end".toList ++ block ++ (after ++
          Markup.closingText trimAfter)) ++ rest ≠ '-' :: tail := by
        intro tail htail
        cases before with
        | nil =>
          obtain ⟨hfirst, -⟩ := List.cons.inj htail
          exact absurd hfirst (by decide)
        | cons c before =>
          obtain ⟨rfl, -⟩ := List.cons.inj htail
          exact absurd (hbefore _ List.mem_cons_self) (by decide)
      exact (afterEndTag?_untrimmed hhyphen).trans hinside

/-- In the text `s`, the `block` goes on up to `after`: behind the first of its end tags, or to the
end of the text if there is none. -/
def BlockEnds (block s after : List Char) : Prop :=
  (∃ before tag, IsEndTag block tag ∧ s = before ++ (tag ++ after) ∧
    ∀ before' tag' after', IsEndTag block tag' → s = before' ++ (tag' ++ after') →
      before.length ≤ before'.length) ∨
  (after = [] ∧ ∀ before tag after', IsEndTag block tag → s ≠ before ++ (tag ++ after'))

/-- If the search finds no end tag at the start of `s`, none stands there. -/
theorem ne_append_of_afterEndTag?_eq_none (h : afterEndTag? block s = none) {tag : List Char}
    (htag : IsEndTag block tag) (after : List Char) : s ≠ tag ++ after := by
  intro hs
  rw [afterEndTag?_eq_some.2 ⟨tag, htag, hs⟩] at h
  cases h

/-- What the search for the end of a block finds is the end of the block. -/
theorem blockEnds_afterBlock (block s : List Char) : BlockEnds block s (afterBlock block s) := by
  induction s with
  | nil =>
    have hnone : afterEndTag? block [] = none := rfl
    refine .inr ⟨rfl, fun before tag after' htag hs => ?_⟩
    obtain ⟨-, hs⟩ := List.nil_eq_append_iff.1 hs
    exact ne_append_of_afterEndTag?_eq_none hnone htag after' hs.symm
  | cons c s ih =>
    rw [afterBlock]
    cases hfound : afterEndTag? block (c :: s) with
    | some rest =>
      obtain ⟨tag, htag, hs⟩ := afterEndTag?_eq_some.1 hfound
      exact .inl ⟨[], tag, htag, hs, fun _ _ _ _ _ => Nat.zero_le _⟩
    | none =>
      rcases ih with ⟨before, tag, htag, hs, hfirst⟩ | ⟨hend, hnone⟩
      · refine .inl ⟨c :: before, tag, htag, by rw [List.cons_append, ← hs], ?_⟩
        intro before' tag' after' htag' hs'
        -- An earlier end tag would start with this character or stand in the rest.
        cases before' with
        | nil => exact absurd hs' (ne_append_of_afterEndTag?_eq_none hfound htag' after')
        | cons d before' =>
          have hrest := (List.cons.inj hs').2
          exact Nat.succ_le_succ (hfirst before' tag' after' htag' hrest)
      · refine .inr ⟨hend, fun before' tag' after' htag' hs' => ?_⟩
        cases before' with
        | nil => exact ne_append_of_afterEndTag?_eq_none hfound htag' after' hs'
        | cons d before' => exact hnone before' tag' after' htag' (List.cons.inj hs').2

/-- A block has one end only. -/
theorem BlockEnds.unique {after after' : List Char} (h : BlockEnds block s after)
    (h' : BlockEnds block s after') : after = after' := by
  rcases h with ⟨before, tag, htag, hs, hfirst⟩ | ⟨rfl, hnone⟩
  · rcases h' with ⟨before', tag', htag', hs', hfirst'⟩ | ⟨-, hnone'⟩
    · -- Both end tags start at the same place, and there the rest is found by reading.
      have hlength : before.length = before'.length :=
        Nat.le_antisymm (hfirst _ _ _ htag' hs') (hfirst' _ _ _ htag hs)
      obtain ⟨-, hbehind⟩ := List.append_inj (hs.symm.trans hs') hlength
      have hfound : afterEndTag? block (tag ++ after) = some after :=
        afterEndTag?_eq_some.2 ⟨tag, htag, rfl⟩
      have hfound' := afterEndTag?_eq_some.2 ⟨tag', htag', hbehind⟩
      exact Option.some.inj (hfound.symm.trans hfound')
    · exact absurd hs (hnone' before tag after htag)
  · rcases h' with ⟨before', tag', htag', hs', -⟩ | ⟨rfl, -⟩
    · exact absurd hs' (hnone before' tag' after' htag')
    · rfl

/-- The end of a block is what the search for it finds, and nothing else. -/
theorem blockEnds_iff {after : List Char} :
    BlockEnds block s after ↔ afterBlock block s = after := by
  constructor
  · exact (blockEnds_afterBlock block s).unique
  · rintro rfl
    exact blockEnds_afterBlock block s

/-- The text `after` a block is the end of the text in which the block stands. -/
theorem BlockEnds.exists_eq_append {after : List Char} (h : BlockEnds block s after) :
    ∃ inside, s = inside ++ after := by
  rcases h with ⟨before, tag, -, hs, -⟩ | ⟨rfl, -⟩
  · exact ⟨before ++ tag, by rw [hs, List.append_assoc]⟩
  · exact ⟨s, (List.append_nil s).symm⟩

end Blocks

end Promptbook
