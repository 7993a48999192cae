import Promptbook.Proofs.Directive.Written

/-!
# Braces in Arguments

No reader of the grammar starts at a brace, and only a text in quotes can hold one. So a brace with
no quotes behind it is never read over: whatever is read of a text that ends in this way, what is
left ends in the same way. This goes through the readers one by one, and at last through the
argument text as a whole, which then does not follow the grammar.

## Main definitions

* `Grammar.Barrier`: a brace with no quotes behind it.
* `Grammar.Spares`: what is left behind a reader ends as the text did.

## Main results

* `Grammar.arguments_ne_ok`: an argument text that ends in a barrier does not follow the grammar.
-/

namespace Promptbook

/-- If `u ++ [c] ++ v` is cut into `s` and `t`, and `c` does not occur in `t`, the cut is in `v`. -/
theorem exists_of_append_eq_concat_append {s t u v : List Char} {c : Char}
    (h : s ++ t = u ++ [c] ++ v) (hc : c ∉ t) : ∃ w, s = u ++ [c] ++ w ∧ v = w ++ t := by
  rcases List.append_eq_append_iff.1 h with ⟨w, hu, rfl⟩ | ⟨w, hs, hv⟩
  · rcases List.eq_nil_or_concat w with rfl | ⟨w, d, rfl⟩
    · exact ⟨[], by simp [hu], rfl⟩
    · rw [List.concat_eq_append, ← List.append_assoc] at hu
      obtain ⟨-, hd⟩ := List.append_inj' hu rfl
      obtain rfl := (List.cons.inj hd).1
      exact absurd (by simp) hc
  · exact ⟨w, hs, hv⟩

namespace Grammar

/-- A text `t` that starts with a brace and in which no quote stands. -/
structure Barrier (t : List Char) : Prop where
  /-- It starts with a brace. -/
  brace : ∃ u, t = '\x7b' :: u
  /-- No quote stands in it. -/
  unquoted : ∀ c ∈ t, ¬ IsQuote c

/-- If a text `s` ends with `t`, so does what a reader leaves of it as `rest`. -/
def Spares (t s rest : List Char) : Prop :=
  t <:+ s → t <:+ rest

/-- If a first reader and a second one behind it spare `t`, so do both together. -/
theorem Spares.trans {t s mid rest : List Char} (h : Spares t s mid) (h' : Spares t mid rest) :
    Spares t s rest :=
  fun ht => h' (h ht)

variable {t s rest : List Char}

section Readers

variable (ht : Barrier t)

include ht

/-- A character `c` that is no opening brace is read without touching `t`. -/
theorem spares_cons {c : Char} (hc : c ≠ '\x7b') : Spares t (c :: s) s := by
  intro hsuffix
  obtain ⟨u, hu⟩ := ht.brace
  rcases List.suffix_cons_iff.1 hsuffix with heq | hrest
  · rw [hu] at heq
    exact absurd (List.cons.inj heq).1.symm hc
  · exact hrest

/-- A stretch `u` without opening braces is read without touching `t`. -/
theorem spares_append {u : List Char} (hu : '\x7b' ∉ u) (s : List Char) :
    Spares t (u ++ s) s := by
  induction u with
  | nil => exact id
  | cons c u ih =>
    obtain ⟨hc, hu⟩ := not_or.1 (List.mem_cons.not.1 hu)
    exact (spares_cons ht (Ne.symm hc)).trans (ih hu)

theorem spares_dropBlank (s : List Char) : Spares t s (dropBlank s) := by
  obtain ⟨blanks, hblanks, hs⟩ := Text.exists_eq_append_dropWhile Text.isPlainSpace s
  rw [← dropBlank] at hs
  have hspares := spares_append ht (fun hmem => absurd (hblanks _ hmem) (by decide)) (dropBlank s)
  rwa [← hs] at hspares

theorem spares_key? {name : List Char} (h : key? s = some (name, rest)) : Spares t s rest := by
  obtain ⟨hname, rfl, -⟩ := key?_eq_some.1 h
  exact spares_append ht (fun hmem => absurd (hname.continuesKey hmem) (by decide)) rest

theorem spares_digits? {digits : List Char} (h : digits? s = some (digits, rest)) :
    Spares t s rest := by
  obtain ⟨-, hdigits, rfl, -⟩ := digits?_eq_some.1 h
  exact spares_append ht (fun hmem => absurd (hdigits _ hmem) (by decide)) rest

/-- A text in quotes may hold braces, but its closing quote does not stand in `t`, so it ends before
`t`. -/
theorem spares_quoted? {text : List Char} (h : quoted? s = some (text, rest)) :
    Spares t s rest := by
  obtain ⟨quote, hquote, -, rfl⟩ := quoted?_eq_some.1 h
  rintro ⟨w, hw⟩
  have hsplit : w ++ t = quote :: text ++ [quote] ++ rest := by
    rw [hw]
    simp
  have hunquoted : quote ∉ t := fun hmem => ht.unquoted quote hmem hquote
  obtain ⟨w', -, hrest⟩ := exists_of_append_eq_concat_append hsplit hunquoted
  exact ⟨w', hrest.symm⟩

theorem spares_takeSign (s : List Char) : Spares t s (Decimal.Numeral.takeSign s).2 := by
  unfold Decimal.Numeral.takeSign
  split
  · exact spares_cons ht (by decide)
  · exact spares_cons ht (by decide)
  · exact id

theorem spares_fraction (s : List Char) : Spares t s (fraction s).2 := by
  unfold fraction
  split
  · split
    · rename_i hdigits
      exact (spares_cons ht (by decide)).trans (spares_digits? ht hdigits)
    · exact id
  · exact id

theorem spares_number? {v : Value} (h : number? s = some (v, rest)) : Spares t s rest := by
  simp only [number?] at h
  split at h
  · cases h
  · rename_i whole tail hdigits
    split at h
    · cases h
    · obtain ⟨_, -, heq⟩ := Option.map_eq_some_iff.1 h
      cases heq
      exact (spares_takeSign ht s).trans
        ((spares_digits? ht hdigits).trans (spares_fraction ht tail))

theorem spares_index? {step : PathStep} (h : index? s = some (step, rest)) : Spares t s rest := by
  simp only [index?] at h
  split at h
  · cases h
  · rename_i hdigits
    split at h
    · cases h
      exact spares_digits? ht hdigits
    · cases h

theorem spares_step? {step : PathStep} (h : step? s = some (step, rest)) : Spares t s rest := by
  unfold step? at h
  -- Point or bracket, and an index or a name behind it: each reader spares `t` in what it takes.
  split at h
  · refine (spares_cons ht (by decide)).trans ?_
    simp only [dotted?] at h
    split at h
    · rename_i hindex
      cases h
      exact spares_index? ht hindex
    · obtain ⟨_, hkey, heq⟩ := Option.map_eq_some_iff.1 h
      cases heq
      exact spares_key? ht hkey
  · refine (spares_cons ht (by decide)).trans ?_
    simp only [bracketed?] at h
    split at h
    · rename_i hinner
      cases h
      refine Spares.trans ?_ (spares_cons ht (c := ']') (by decide))
      split at hinner
      · rename_i hindex
        cases hinner
        exact spares_index? ht hindex
      · obtain ⟨⟨name, tail⟩, hquoted, heq⟩ := Option.map_eq_some_iff.1 hinner
        cases heq
        exact spares_quoted? ht hquoted
    · cases h
  · cases h

theorem spares_steps (s : List Char) : Spares t s (steps s).2 := by
  induction s using steps.induct with
  | case1 s hnone =>
    rw [steps_of_none hnone]
    exact id
  | case2 s step rest hsome ih =>
    rw [steps_of_some hsome]
    exact (spares_step? ht hsome).trans ih

theorem spares_path? {path : Path} (h : path? s = some (path, rest)) : Spares t s rest := by
  obtain ⟨⟨root, tail⟩, hkey, heq⟩ := Option.map_eq_some_iff.1 h
  cases heq
  exact (spares_key? ht hkey).trans (spares_steps ht tail)

theorem spares_value? {source : ArgumentSource} (h : value? s = some (source, rest)) :
    Spares t s rest := by
  simp only [value?] at h
  split at h
  · rename_i hquoted
    cases h
    exact spares_quoted? ht hquoted
  · split at h
    · rename_i hnumber
      cases h
      exact spares_number? ht hnumber
    · obtain ⟨_, hpath, heq⟩ := Option.map_eq_some_iff.1 h
      cases heq
      exact spares_path? ht hpath

theorem spares_assigned? {source : ArgumentSource} (h : assigned? s = some (source, rest)) :
    Spares t s rest := by
  simp only [assigned?] at h
  split at h
  · rename_i c tail hdropped
    split at h
    · rename_i hc
      -- The sign between key and value is not a brace.
      refine (spares_dropBlank ht s).trans ?_
      rw [hdropped]
      refine (spares_cons ht ?_).trans ((spares_dropBlank ht tail).trans (spares_value? ht h))
      rintro rfl
      cases hc
    · cases h
  · cases h

theorem spares_item? {item : ArgumentItem} (h : item? s = some (item, rest)) :
    Spares t s rest := by
  obtain ⟨⟨key, tail⟩, hkey, heq⟩ := Option.map_eq_some_iff.1 h
  refine (spares_key? ht hkey).trans ?_
  simp only at heq
  split at heq
  · rename_i hassigned
    cases heq
    exact spares_assigned? ht hassigned
  · cases heq
    exact id

theorem spares_separator? (h : separator? s = some rest) : Spares t s rest := by
  refine (spares_dropBlank ht s).trans ?_
  simp only [separator?] at h
  split at h
  · rename_i tail hdropped
    cases h
    rw [hdropped]
    exact (spares_cons ht (by decide)).trans (spares_dropBlank ht tail)
  · split at h
    · cases h
      exact id
    · cases h

theorem spares_moreItems (s : List Char) : Spares t s (moreItems s).2 := by
  induction s using moreItems.induct with
  | case1 s hseparator =>
    rw [moreItems_of_none (.inl hseparator)]
    exact id
  | case2 s rest hseparator hitem =>
    rw [moreItems_of_none (.inr ⟨rest, hseparator, hitem⟩)]
    exact id
  | case3 s rest hseparator item rest' hitem ih =>
    rw [moreItems_of_some hseparator hitem]
    exact (spares_separator? ht hseparator).trans ((spares_item? ht hitem).trans ih)

theorem spares_items (s : List Char) : Spares t s (items s).2 := by
  unfold items
  split
  · exact id
  · rename_i tail hitem
    exact (spares_item? ht hitem).trans (spares_moreItems ht tail)

theorem spares_dropTrailingComma (s : List Char) : Spares t s (dropTrailingComma s) := by
  unfold dropTrailingComma
  split
  · rename_i tail hdropped
    refine (spares_dropBlank ht s).trans ?_
    rw [hdropped]
    exact spares_cons ht (by decide)
  · exact id

/-- An argument text that ends with such a `t` does not follow the grammar. -/
theorem arguments_ne_ok (hs : t <:+ s) (found : List ArgumentItem) : arguments s ≠ .ok found := by
  intro h
  -- No reader gets into the barrier, so it is still there when all of them are done.
  have hspares : Spares t s (dropBlank (dropTrailingComma (items (dropBlank s)).2)) :=
    (spares_dropBlank ht s).trans ((spares_items ht _).trans
      ((spares_dropTrailingComma ht _).trans (spares_dropBlank ht _)))
  simp only [arguments] at h
  split at h
  · rename_i hend
    obtain ⟨u, hu⟩ := ht.brace
    rw [hend] at hspares
    rw [List.suffix_nil.1 (hspares hs)] at hu
    cases hu
  · cases h

end Readers

end Grammar

end Promptbook
