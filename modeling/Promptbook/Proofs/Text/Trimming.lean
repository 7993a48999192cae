import Mathlib.Data.List.DropRight
import Promptbook.Text.Search
import Promptbook.Text.Space

/-!
# Trimmed Texts

A text stands between the white space around it, and trimming takes just that away. When white space
is taken away from the end of a text of several lines, blank lines go with it; every line that is
left is a line of the text, the last one perhaps without white space at its end.

## Main results

* `trimSpace_append`: white space around a text does not count.
* `exists_eq_append_trimSpace_append`: a text stands between the white space around it.
* `exists_append_mem_lines`: the lines that are left when white space is taken away at the end.
-/

namespace Promptbook.Text

section Trimming

variable {a b s : List Char}

/-- White space `a` in front of `s` is dropped with that at the start of `s`. -/
theorem dropSpace_append (h : isBlank a = true) (s : List Char) :
    dropSpace (a ++ s) = dropSpace s := by
  rw [isBlank, List.all_eq_true] at h
  exact List.dropWhile_append_of_pos h

/-- White space `b` behind `s` is dropped with that at the end of `s`. -/
theorem dropSpaceRight_append (s : List Char) (h : isBlank b = true) :
    dropSpaceRight (s ++ b) = dropSpaceRight s := by
  have hreverse : isBlank b.reverse = true := by rw [isBlank, List.all_reverse]; exact h
  rw [dropSpaceRight, List.reverse_append, ← dropSpace, dropSpace_append hreverse]
  rfl

/-- What is dropped at the start of `s` is white space. -/
theorem exists_eq_append_dropSpace (s : List Char) : ∃ a, isBlank a = true ∧ s = a ++ dropSpace s :=
  ⟨s.takeWhile isSpace, List.all_takeWhile, List.takeWhile_append_dropWhile.symm⟩

/-- What is dropped at the end of `s` is white space. -/
theorem exists_eq_dropSpaceRight_append (s : List Char) :
    ∃ b, isBlank b = true ∧ s = dropSpaceRight s ++ b := by
  obtain ⟨a, ha, hs⟩ := exists_eq_append_dropSpace s.reverse
  refine ⟨a.reverse, by rw [isBlank, List.all_reverse]; exact ha, ?_⟩
  have hs := congrArg List.reverse hs
  rwa [List.reverse_reverse, List.reverse_append] at hs

/-- When white space has been dropped at the end of `s`, there is none left to be dropped. -/
theorem dropSpaceRight_dropSpaceRight (s : List Char) :
    dropSpaceRight (dropSpaceRight s) = dropSpaceRight s := by
  rw [dropSpaceRight, dropSpaceRight, List.reverse_reverse, List.dropWhile_idempotent]

/-- A text that ends with a character `c` other than white space stays as it is. -/
theorem dropSpaceRight_concat {c : Char} (s : List Char) (h : isSpace c = false) :
    dropSpaceRight (s ++ [c]) = s ++ [c] := by
  rw [dropSpaceRight, List.reverse_append, List.reverse_singleton, List.singleton_append,
    List.dropWhile_cons_of_neg (by rw [h]; exact Bool.false_ne_true), List.reverse_cons,
    List.reverse_reverse]

/-- White space `a` and `b` around `s` goes when the text is trimmed. -/
theorem trimSpace_append (ha : isBlank a = true) (s : List Char) (hb : isBlank b = true) :
    trimSpace (a ++ (s ++ b)) = trimSpace s := by
  rw [trimSpace, dropSpace_append ha, dropSpace, List.dropWhile_append, ← dropSpace]
  split
  · -- A blank text leaves nothing, with or without the white space behind it.
    rename_i hempty
    have hb' : dropSpace b = [] := List.dropWhile_eq_nil_iff.2 (List.all_eq_true.1 hb)
    rw [trimSpace, List.isEmpty_iff.1 hempty, ← dropSpace, hb']
  · exact dropSpaceRight_append (dropSpace s) hb

/-- A text `s` is what is left of it when it is trimmed, with white space around it. -/
theorem exists_eq_append_trimSpace_append (s : List Char) :
    ∃ a b, isBlank a = true ∧ isBlank b = true ∧ s = a ++ (trimSpace s ++ b) := by
  obtain ⟨a, ha, hs⟩ := exists_eq_append_dropSpace s
  obtain ⟨b, hb, hrest⟩ := exists_eq_dropSpaceRight_append (dropSpace s)
  exact ⟨a, b, ha, hb, hs.trans (congrArg (a ++ ·) hrest)⟩

/-- A character `c` of the trimmed text stands in the text. -/
theorem mem_of_mem_trimSpace {c : Char} (h : c ∈ trimSpace s) : c ∈ s := by
  obtain ⟨a, b, -, -, hs⟩ := exists_eq_append_trimSpace_append s
  rw [hs]
  simp [h]

/-- A text between characters `c` and `d` other than white space stays as it is. -/
theorem trimSpace_eq_self {c d : Char} (hc : isSpace c = false) (hd : isSpace d = false)
    (s : List Char) : trimSpace (c :: (s ++ [d])) = c :: (s ++ [d]) := by
  rw [trimSpace, dropSpace, List.dropWhile_cons_of_neg (by rw [hc]; exact Bool.false_ne_true)]
  exact dropSpaceRight_concat (c :: s) hd

/-- A text without white space stays as it is. -/
theorem trimSpace_of_forall (h : ∀ c ∈ s, isSpace c = false) : trimSpace s = s := by
  obtain ⟨a, b, ha, hb, hs⟩ := exists_eq_append_trimSpace_append s
  have hnil : ∀ t : List Char, isBlank t = true → (∀ c ∈ t, c ∈ s) → t = [] := by
    intro t ht hmem
    refine List.eq_nil_iff_forall_not_mem.2 fun c hc => ?_
    have hspace := List.all_eq_true.1 ht c hc
    rw [h c (hmem c hc)] at hspace
    cases hspace
  have hfirst : a = [] := hnil a ha fun c hc => hs ▸ List.mem_append_left _ hc
  have hlast : b = [] := hnil b hb fun c hc =>
    hs ▸ List.mem_append_right _ (List.mem_append_right _ hc)
  rw [hfirst, hlast, List.nil_append, List.append_nil] at hs
  exact hs.symm

/-- A text that has been trimmed stays as it is. -/
theorem trimSpace_trimSpace (s : List Char) : trimSpace (trimSpace s) = trimSpace s := by
  obtain ⟨a, b, ha, hb, hs⟩ := exists_eq_append_trimSpace_append s
  have htrim := trimSpace_append ha (trimSpace s) hb
  rwa [← hs, eq_comm] at htrim

end Trimming

section Lines

variable {s b line : List Char}

/-- The first character `c` of a text stands in its first line, unless it is a line break. -/
theorem lines_cons {c : Char} (hc : c ≠ '\n') (s : List Char) :
    ∃ first rest, lines s = first :: rest ∧ lines (c :: s) = (c :: first) :: rest := by
  cases hs : lines s with
  | nil => exact absurd hs (lines_ne_nil s)
  | cons first rest =>
    refine ⟨first, rest, rfl, ?_⟩
    simp only [lines, hs, beq_iff_eq, hc, if_false]

/-- The characters of a `line` are characters of the text. -/
theorem mem_of_mem_lines {c : Char} (hline : line ∈ lines s) (hc : c ∈ line) : c ∈ s := by
  induction s generalizing line with
  | nil =>
    rw [List.mem_singleton.1 hline] at hc
    exact hc
  | cons d s ih =>
    by_cases hd : d = '\n'
    · subst hd
      rcases List.mem_cons.1 (show line ∈ [] :: lines s from hline) with rfl | hrest
      · cases hc
      · exact List.mem_cons_of_mem _ (ih hrest hc)
    · obtain ⟨first, rest, hs, hcons⟩ := lines_cons hd s
      rw [hcons] at hline
      rcases List.mem_cons.1 hline with rfl | hrest
      · rcases List.mem_cons.1 hc with rfl | hc
        · exact List.mem_cons_self
        · exact List.mem_cons_of_mem _ (ih (hs ▸ List.mem_cons_self) hc)
      · exact List.mem_cons_of_mem _ (ih (hs ▸ List.mem_cons_of_mem _ hrest) hc)

/-- No line break stands in a `line`. -/
theorem break_not_mem_of_mem_lines (hline : line ∈ lines s) : '\n' ∉ line := by
  induction s generalizing line with
  | nil =>
    rw [List.mem_singleton.1 hline]
    exact List.not_mem_nil
  | cons d s ih =>
    by_cases hd : d = '\n'
    · subst hd
      rcases List.mem_cons.1 (show line ∈ [] :: lines s from hline) with rfl | hrest
      · exact List.not_mem_nil
      · exact ih hrest
    · obtain ⟨first, rest, hs, hcons⟩ := lines_cons hd s
      rw [hcons] at hline
      rcases List.mem_cons.1 hline with rfl | hrest
      · exact List.not_mem_cons_of_ne_of_not_mem (Ne.symm hd) (ih (hs ▸ List.mem_cons_self))
      · exact ih (hs ▸ List.mem_cons_of_mem _ hrest)

/-- Every `line` of a blank text is blank. -/
theorem isBlank_of_mem_lines (hs : isBlank s = true) (hline : line ∈ lines s) :
    isBlank line = true :=
  List.all_eq_true.2 fun _ hc => List.all_eq_true.1 hs _ (mem_of_mem_lines hline hc)

/-- A text without line breaks is a single line. -/
theorem lines_of_not_mem (h : '\n' ∉ s) : lines s = [s] := by
  induction s with
  | nil => rfl
  | cons c s ih =>
    obtain ⟨hc, hs⟩ := not_or.1 (mt List.mem_cons.2 h)
    obtain ⟨first, rest, hlines, hcons⟩ := lines_cons (Ne.symm hc) s
    rw [ih hs] at hlines
    cases hlines
    exact hcons

/-- Where `t` follows `s`, the last line of `s` goes on with the first line of `t`. -/
theorem lines_append_eq {t last first : List Char} {early late : List (List Char)}
    (hs : lines s = early ++ [last]) (ht : lines t = first :: late) :
    lines (s ++ t) = early ++ (last ++ first) :: late := by
  -- On `s`: a line feed ends an early line; another character goes to the first line, which is the
  -- last one too if there are no early ones.
  induction s generalizing early last with
  | nil =>
    obtain ⟨rfl, rfl⟩ : early = [] ∧ [] = last := by
      simpa [List.singleton_eq_append_iff] using show [[]] = early ++ [last] from hs
    exact ht
  | cons d s ih =>
    by_cases hd : d = '\n'
    · subst hd
      cases early with
      | nil => exact absurd (List.cons.inj (show [] :: lines s = [last] from hs)).2 (lines_ne_nil s)
      | cons line early =>
        have hs : [] :: lines s = line :: (early ++ [last]) := hs
        obtain ⟨rfl, hrest⟩ := List.cons.inj hs
        exact congrArg ([] :: ·) (ih hrest)
    · obtain ⟨line, rest, hlines, hcons⟩ := lines_cons hd s
      obtain ⟨line', rest', hlines', hcons'⟩ := lines_cons hd (s ++ t)
      rw [List.cons_append, hcons']
      rw [hcons] at hs
      cases early with
      | nil =>
        obtain ⟨rfl, rfl⟩ := List.cons.inj hs
        have hrest : lines (s ++ t) = [] ++ (line ++ first) :: late := ih hlines
        rw [hrest] at hlines'
        cases hlines'
        rfl
      | cons _ early =>
        obtain ⟨rfl, rfl⟩ := List.cons.inj hs
        have hrest : lines (s ++ t) = (line :: early) ++ (last ++ first) :: late := ih hlines
        rw [hrest] at hlines'
        cases hlines'
        rfl

/-- The lines of `texts` with line breaks between them are their lines one after another. -/
theorem lines_intercalate {texts : List (List Char)} (h : texts ≠ []) :
    lines (['\n'].intercalate texts) = texts.flatMap lines := by
  induction texts with
  | nil => exact absurd rfl h
  | cons text rest ih =>
    cases rest with
    | nil => simp [List.intercalate]
    | cons next rest =>
      have hcut : ['\n'].intercalate (text :: next :: rest) =
          text ++ '\n' :: ['\n'].intercalate (next :: rest) := by
        simp [List.intercalate]
      rw [hcut, lines_append, ih (List.cons_ne_nil next rest)]
      rfl

/-- Lines with line breaks between them are the lines of the text that they make up. -/
theorem lines_intercalate_of_not_mem {texts : List (List Char)} (hne : texts ≠ [])
    (h : ∀ line ∈ texts, '\n' ∉ line) : lines (['\n'].intercalate texts) = texts := by
  rw [lines_intercalate hne, List.flatMap_congr fun line hline => lines_of_not_mem (h line hline)]
  simp

/-- When white space `b` is taken away at the end of a text, a `line` with text in it is kept, up to
white space at its end. -/
theorem exists_mem_lines_of_append (hb : isBlank b = true) (hline : line ∈ lines (s ++ b))
    (hblank : isBlank line = false) :
    ∃ kept ∈ lines s, ∃ w, isBlank w = true ∧ line = kept ++ w := by
  obtain ⟨early, last, hs⟩ := List.eq_nil_or_concat' (lines s) |>.resolve_left (lines_ne_nil s)
  obtain ⟨first, late, hlines⟩ := List.exists_cons_of_ne_nil (lines_ne_nil b)
  rw [lines_append_eq hs hlines] at hline
  rw [hs]
  rcases List.mem_append.1 hline with hearly | hrest
  · exact ⟨line, List.mem_append_left _ hearly, [], rfl, (List.append_nil line).symm⟩
  · rcases List.mem_cons.1 hrest with rfl | hlate
    · refine ⟨last, by simp, first, isBlank_of_mem_lines hb ?_, rfl⟩
      exact hlines ▸ List.mem_cons_self
    · -- The lines behind the first one of the white space are blank.
      have hwhite := isBlank_of_mem_lines hb (hlines ▸ List.mem_cons_of_mem _ hlate)
      rw [hblank] at hwhite
      cases hwhite

/-- Where white space `b` follows a text, every `line` of the text is followed by white space up to
the end of its line. -/
theorem exists_append_mem_lines (hb : isBlank b = true) (hline : line ∈ lines s) :
    ∃ w, isBlank w = true ∧ line ++ w ∈ lines (s ++ b) := by
  obtain ⟨early, last, hs⟩ := List.eq_nil_or_concat' (lines s) |>.resolve_left (lines_ne_nil s)
  obtain ⟨first, late, hlines⟩ := List.exists_cons_of_ne_nil (lines_ne_nil b)
  rw [lines_append_eq hs hlines]
  rcases List.mem_append.1 (hs ▸ hline) with hearly | hlast
  · exact ⟨[], rfl, by simp [hearly]⟩
  · rw [List.mem_singleton.1 hlast]
    exact ⟨first, isBlank_of_mem_lines hb (hlines ▸ List.mem_cons_self), by simp⟩

end Lines

end Promptbook.Text
