import Mathlib.Data.List.TakeWhile
import Promptbook.Directive.Grammar

/-!
# What the Readers Take

Every reader of the grammar takes the longest stretch of characters of its kind. For each of them
there is one law that says what it takes and what it leaves, in both directions: from what it has
read to how the text is put together, and back.

## Main definitions

* `Text.Stops`: a text does not go on with a character of a class.
* `Grammar.IsKey`: the texts that are keys.

## Main results

* `Grammar.key?_eq_some`, `Grammar.quoted?_eq_some`, `Grammar.digits?_eq_some`: what is read.
* `Grammar.dropBlank_append`: what is left behind blanks.
-/

namespace Promptbook

namespace Text

/-- The text `s` does not go on with a character of the class `p`: it is at its end, or goes on with
another one. -/
def Stops (p : Char → Bool) (s : List Char) : Prop :=
  ∀ c ∈ s.head?, p c = false

variable {p : Char → Bool} {s t : List Char}

theorem stops_nil (p : Char → Bool) : Stops p [] := nofun

@[simp]
theorem stops_cons {c : Char} : Stops p (c :: s) ↔ p c = false := by
  simp [Stops]

/-- If `s` consists of characters in `p` and `t` does not go on with one, `s` is the longest such
stretch of `s ++ t`. -/
theorem takeWhile_append_of_stops (hs : ∀ c ∈ s, p c = true) (ht : Stops p t) :
    (s ++ t).takeWhile p = s := by
  rw [List.takeWhile_append_of_pos hs]
  cases t with
  | nil => exact List.append_nil s
  | cons c t => simp [stops_cons.1 ht]

/-- If `s` consists of characters in `p` and `t` does not go on with one, `t` is what is left of
`s ++ t` behind the longest such stretch. -/
theorem dropWhile_append_of_stops (hs : ∀ c ∈ s, p c = true) (ht : Stops p t) :
    (s ++ t).dropWhile p = t := by
  rw [List.dropWhile_append_of_pos hs]
  cases t with
  | nil => rfl
  | cons c t => simp [stops_cons.1 ht]

/-- What `dropWhile` drops is a stretch of characters in `p`. -/
theorem exists_eq_append_dropWhile (p : Char → Bool) (s : List Char) :
    ∃ first, (∀ c ∈ first, p c = true) ∧ s = first ++ s.dropWhile p :=
  ⟨s.takeWhile p, fun _ hc => List.mem_takeWhile_imp hc, List.takeWhile_append_dropWhile.symm⟩

/-- Behind its longest stretch of characters in `p`, the text does not go on with one. -/
theorem stops_dropWhile (p : Char → Bool) (s : List Char) : Stops p (s.dropWhile p) := by
  intro c hc
  cases hrest : s.dropWhile p with
  | nil => simp [hrest] at hc
  | cons d rest =>
    have hd := List.head?_dropWhile_not p s
    rw [hrest] at hc hd
    obtain rfl : d = c := by simpa using hc
    simpa using hd

end Text

/-- The `range` contains no white space beyond ASCII. -/
def SparesSpace (range : Nat × Nat) : Prop :=
  range.2 < 0x85 ∨ 0x85 < range.1 ∧ range.2 < 0xA0 ∨ 0xA0 < range.1 ∧ range.2 < 0x1680 ∨
    0x1680 < range.1 ∧ range.2 < 0x2000 ∨ 0x200A < range.1 ∧ range.2 < 0x2028 ∨
      0x205F < range.1 ∧ range.2 < 0x3000 ∨ 0x3000 < range.1

instance : DecidablePred SparesSpace := fun _ => inferInstanceAs (Decidable (_ ∨ _))

/-- If every range in `table` spares white space, no character that is in the table is white
space. -/
theorem isSpace_of_inRanges {table : Array (Nat × Nat)}
    (htable : ∀ range ∈ table.toList, SparesSpace range) {c : Char} (hc : 128 ≤ c.toNat)
    (h : Text.inRanges table c.toNat = true) : Text.isSpace c = false := by
  rw [Text.inRanges, ← Array.any_toList, List.any_eq_true] at h
  obtain ⟨range, hrange, hin⟩ := h
  simp only [Bool.and_eq_true, decide_eq_true_eq] at hin
  have hspares := htable range hrange
  rw [Bool.eq_false_iff]
  simp only [Text.isSpace, ne_eq, Bool.or_eq_true, Bool.and_eq_true, decide_eq_true_eq, beq_iff_eq]
  unfold SparesSpace at hspares
  omega

/-- White space is foreign to keys. -/
theorem isSpace_of_continuesKey {c : Char} (h : Grammar.continuesKey c = true) :
    Text.isSpace c = false := by
  have halphabetic : ∀ range ∈ Text.Table.alphabetic.toList, SparesSpace range := by decide +kernel
  have hnumeric : ∀ range ∈ Text.Table.numeric.toList, SparesSpace range := by decide +kernel
  simp only [Grammar.continuesKey, Text.isAlphanumeric, Text.isAlphabetic, Text.isNumeric,
    Bool.or_eq_true, Bool.and_eq_true, decide_eq_true_eq, beq_iff_eq] at h
  rcases h with (((halpha | ⟨hc, hin⟩) | (hdigit | ⟨hc, hin⟩)) | rfl) | rfl
  · exact Text.isSpace_of_isAlphanum (Bool.or_eq_true_iff.2 (.inl halpha))
  · exact isSpace_of_inRanges halphabetic hc hin
  · exact Text.isSpace_of_isAlphanum (Bool.or_eq_true_iff.2 (.inr hdigit))
  · exact isSpace_of_inRanges hnumeric hc hin
  · rfl
  · rfl

namespace Grammar

open Text (Stops)

/-- A key: a letter or an underscore, and letters, digits, underscores and hyphens behind it. -/
def IsKey (s : List Char) : Prop :=
  ∃ c rest, s = c :: rest ∧ startsKey c = true ∧ ∀ d ∈ rest, continuesKey d = true

/-- What starts a key may also stand inside of one. -/
theorem continuesKey_of_startsKey {c : Char} (h : startsKey c = true) : continuesKey c = true := by
  unfold startsKey at h
  unfold continuesKey Text.isAlphanumeric
  rcases Bool.or_eq_true_iff.1 h with h | h <;> simp [h]

/-- Blanks are foreign to keys. -/
theorem continuesKey_of_isPlainSpace {c : Char} (h : Text.isPlainSpace c = true) :
    continuesKey c = false := by
  simp only [Text.isPlainSpace, Bool.or_eq_true, beq_iff_eq] at h
  rcases h with ((rfl | rfl) | rfl) | rfl <;> decide

/-- No blank starts a key. -/
theorem isPlainSpace_of_startsKey {c : Char} (h : startsKey c = true) :
    Text.isPlainSpace c = false := by
  rw [Bool.eq_false_iff]
  intro hspace
  have hforeign := continuesKey_of_isPlainSpace hspace
  rw [continuesKey_of_startsKey h] at hforeign
  cases hforeign

/-- Every character `c` of a key may stand inside of one. -/
theorem IsKey.continuesKey {name : List Char} (h : IsKey name) {c : Char} (hc : c ∈ name) :
    continuesKey c = true := by
  obtain ⟨first, rest, rfl, hfirst, hrest⟩ := h
  rcases List.mem_cons.1 hc with rfl | hc
  · exact continuesKey_of_startsKey hfirst
  · exact hrest c hc

/-- A key is read from `s` exactly if one stands at its start, and up to the first character that is
foreign to keys. -/
theorem key?_eq_some {s name rest : List Char} :
    key? s = some (name, rest) ↔
      IsKey name ∧ s = name ++ rest ∧ Stops continuesKey rest := by
  constructor
  · intro h
    cases s with
    | nil => cases h
    | cons c s =>
      simp only [key?] at h
      split at h
      · rename_i hc
        obtain ⟨rfl, rfl⟩ := by simpa using h
        refine ⟨⟨c, _, rfl, hc, fun d hd => ?_⟩, ?_, Text.stops_dropWhile _ s⟩
        · exact (List.mem_takeWhile_imp hd)
        · rw [List.cons_append, List.takeWhile_append_dropWhile]
      · cases h
  · rintro ⟨⟨c, more, rfl, hc, hmore⟩, rfl, hrest⟩
    simp only [List.cons_append, key?, hc, if_true]
    rw [Text.takeWhile_append_of_stops hmore hrest, Text.dropWhile_append_of_stops hmore hrest]

/-- The characters that quotes are made of. -/
def IsQuote (quote : Char) : Prop :=
  quote = '"' ∨ quote = '\''

/-- A text in quotes is read up to the next `quote` of the same kind. -/
theorem quoted?_eq_some {s text rest : List Char} :
    quoted? s = some (text, rest) ↔
      ∃ quote, IsQuote quote ∧ quote ∉ text ∧ s = quote :: (text ++ quote :: rest) := by
  constructor
  · intro h
    cases s with
    | nil => cases h
    | cons quote s =>
      simp only [quoted?] at h
      split at h
      · rename_i hquote
        have hstop := Text.stops_dropWhile (· != quote) s
        have hwhole := List.takeWhile_append_dropWhile (p := (· != quote)) (l := s)
        split at h
        · cases h
        · rename_i c tail hdrop
          obtain ⟨rfl, rfl⟩ := by simpa using h
          rw [hdrop] at hstop hwhole
          -- The character at which the stretch ends is the quote itself.
          obtain rfl : c = quote := by simpa using hstop
          refine ⟨c, by simpa [IsQuote] using hquote, fun hmem => ?_, by rw [hwhole]⟩
          have hne := List.mem_takeWhile_imp hmem
          simp at hne
      · cases h
  · rintro ⟨quote, hquote, hmem, rfl⟩
    have htext : ∀ c ∈ text, (c != quote) = true := by
      intro c hc
      simp only [bne_iff_ne, ne_eq]
      rintro rfl
      exact hmem hc
    have hstop : Stops (· != quote) (quote :: rest) := by simp
    have htest : (quote == '"' || quote == '\'') = true := by
      rcases hquote with rfl | rfl <;> rfl
    simp only [quoted?, htest, if_true]
    rw [Text.takeWhile_append_of_stops htext hstop, Text.dropWhile_append_of_stops htext hstop]

/-- A character `c` that is no quote does not start a text in quotes. -/
theorem quoted?_cons_of_not_isQuote {c : Char} {s : List Char} (h : ¬ IsQuote c) :
    quoted? (c :: s) = none := by
  have htest : (c == '"' || c == '\'') = false := by
    simpa [IsQuote] using h
  simp [quoted?, htest]

/-- Digits are read as far as they go, and there is at least one. -/
theorem digits?_eq_some {s digits rest : List Char} :
    digits? s = some (digits, rest) ↔
      digits ≠ [] ∧ (∀ c ∈ digits, c.isDigit = true) ∧ s = digits ++ rest ∧
        Stops Char.isDigit rest := by
  constructor
  · intro h
    simp only [digits?] at h
    split at h
    · cases h
    · rename_i hne
      obtain ⟨rfl, rfl⟩ := by simpa using h
      refine ⟨by simpa using hne, fun c hc => List.mem_takeWhile_imp hc, ?_,
        Text.stops_dropWhile _ s⟩
      rw [List.takeWhile_append_dropWhile]
  · rintro ⟨hne, hdigits, rfl, hrest⟩
    simp only [digits?]
    rw [Text.takeWhile_append_of_stops hdigits hrest, Text.dropWhile_append_of_stops hdigits hrest]
    simp [hne]

/-- No digits are read exactly if the text does not go on with one. -/
theorem digits?_eq_none {s : List Char} : digits? s = none ↔ Stops Char.isDigit s := by
  cases s with
  | nil => simp [digits?, Text.stops_nil]
  | cons c s =>
    by_cases hc : c.isDigit = true <;> simp [digits?, hc]

/-- If `c` is no sign, none is taken. -/
theorem takeSign_cons {c : Char} {s : List Char} (hminus : c ≠ '-') (hplus : c ≠ '+') :
    Decimal.Numeral.takeSign (c :: s) = (false, c :: s) := by
  unfold Decimal.Numeral.takeSign
  split
  · rename_i heq
    exact absurd (List.cons.inj heq).1 hminus
  · rename_i heq
    exact absurd (List.cons.inj heq).1 hplus
  · rfl

/-- The `blanks` in front of a text that does not start with one are dropped. -/
theorem dropBlank_append {blanks s : List Char} (hblanks : ∀ c ∈ blanks, Text.isPlainSpace c = true)
    (hs : Stops Text.isPlainSpace s) : dropBlank (blanks ++ s) = s :=
  Text.dropWhile_append_of_stops hblanks hs

end Grammar

end Promptbook
