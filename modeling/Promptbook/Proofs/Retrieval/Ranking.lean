import Mathlib.Analysis.Real.Sqrt
import Promptbook.Retrieval.Corpus

/-!
# The Ranking of a Corpus

A search walks through the corpus once, keeps the documents whose similarity is positive and sorts
them. When similarities are computed in real numbers, they are positive for the documents that share
a word with the query and for no others, and the sorting is stable. So there is one ranking of the
places of a corpus, and every search gives the front of it.

## Main definitions

* `occurrences`, `cosine`: how often a word occurs in a text, and the cosine of the angle between
  two texts.
* `Scale.exact`: real numbers as similarities.
* `Corpus.ranking`: the places of the documents that a search finds, in its order.
* `Corpus.Ranks`: what a ranking of the documents must be.

## Main results

* `WordCounts.getD_value?_ofText`: the counts are the numbers of occurrences.
* `Scale.similarity_exact`: the exact similarity is the cosine.
* `cosine_pos_iff`: the cosine is positive where a word is shared.
* `Corpus.searchIn_eq_take`: a search gives the front of the ranking, whatever its scale.
* `Corpus.searchIn_congr`: scales that compare the documents in the same way find the same ones.
* `Corpus.exists_ranks`: what a search finds whose similarities are exact.
-/

namespace Promptbook

open WordCounts (lowercaseWords)

/-- How often `word`, which is in lowercase, occurs in `text` in whatever letter case. -/
def occurrences (text word : String) : Nat :=
  (lowercaseWords text).count word

/-- The words of `query` and `text`. -/
def allWords (query text : String) : Finset String :=
  (lowercaseWords query ++ lowercaseWords text).toFinset

/-- The cosine of the angle between `query` and `text` as vectors of numbers of occurrences. It is
zero if one of them has no words. -/
noncomputable def cosine (query text : String) : ℝ :=
  (∑ word ∈ allWords query text, (occurrences query word : ℝ) * occurrences text word) /
    (√(∑ word ∈ allWords query text, (occurrences text word : ℝ) ^ 2) *
      √(∑ word ∈ allWords query text, (occurrences query word : ℝ) ^ 2))

/-- A word of `query` occurs in `text`. -/
def Shares (query text : String) : Prop :=
  ∃ word, word ∈ lowercaseWords query ∧ word ∈ lowercaseWords text

/-- The scale of real numbers, on which nothing is rounded. -/
noncomputable def Scale.exact : Scale ℝ where
  ofNat n := n
  sqrt x := √x
  mul x y := x * y
  div x y := x / y
  isPositive x := 0 < x
  le x y := x ≤ y

namespace WordCounts

/-- One more occurrence of `word` counts for this word only. -/
theorem getD_value?_add (counts : WordCounts) (word other : String) :
    ((counts.add word).value? other).getD 0 =
      (counts.value? other).getD 0 + if word = other then 1 else 0 := by
  rw [add, Fields.value?_put]
  by_cases h : word = other
  · rw [if_pos h, if_pos h, h, Option.getD_some]
  · rw [if_neg h, if_neg h, Nat.add_zero]

/-- Going through `words` adds their occurrences to the counts. -/
theorem getD_value?_foldl_add (words : List String) (counts : WordCounts) (word : String) :
    ((words.foldl add counts).value? word).getD 0 =
      (counts.value? word).getD 0 + words.count word := by
  induction words generalizing counts with
  | nil => rfl
  | cons first rest ih =>
    rw [List.foldl_cons, ih, getD_value?_add, List.count_cons]
    simp only [beq_iff_eq]
    omega

/-- The counts of `text` are the numbers of occurrences. -/
theorem getD_value?_ofText (text word : String) :
    ((ofText text).value? word).getD 0 = occurrences text word := by
  rw [ofText, getD_value?_foldl_add, Fields.value?_nil, Option.getD_none, Nat.zero_add, occurrences]

/-- Going through `words` keeps the counts in order. -/
theorem sorted_foldl_add (words : List String) {counts : WordCounts} (h : counts.Sorted) :
    (words.foldl add counts).Sorted := by
  induction words generalizing counts with
  | nil => exact h
  | cons first rest ih => exact ih (h.put _ _)

theorem sorted_ofText (text : String) : (ofText text).Sorted :=
  sorted_foldl_add _ Fields.sorted_nil

/-- Going through `words` adds them to those that are counted. -/
theorem mem_names_foldl_add (words : List String) (counts : WordCounts) (word : String) :
    word ∈ (words.foldl add counts).names ↔ word ∈ words ∨ word ∈ counts.names := by
  induction words generalizing counts with
  | nil => simp
  | cons first rest ih =>
    rw [List.foldl_cons, ih, add, Fields.mem_names_put, List.mem_cons, eq_comm (a := word)]
    tauto

/-- The words of `text` are counted, and no others. -/
theorem mem_names_ofText (text word : String) :
    word ∈ (ofText text).names ↔ word ∈ lowercaseWords text := by
  rw [ofText, mem_names_foldl_add]
  simp [Fields.names]

/-- A fold over `counts` is a sum over any set of `words` that contains those that are counted. -/
theorem foldl_eq_sum {counts : WordCounts} (hsorted : counts.Sorted) {f : String → Nat → Nat}
    (hzero : ∀ word, f word 0 = 0) {words : Finset String}
    (hwords : ∀ word ∈ counts.names, word ∈ words) (start : Nat) :
    counts.foldl (fun total entry => total + f entry.1 entry.2) start =
      start + ∑ word ∈ words, f word ((counts.value? word).getD 0) := by
  induction counts generalizing words start with
  | nil =>
    have hsum : ∑ word ∈ words, f word ((Fields.value? [] word : Option Nat).getD 0) = 0 :=
      Finset.sum_eq_zero fun word _ => hzero word
    rw [hsum]
    rfl
  | cons entry rest ih =>
    obtain ⟨hfirst, hrest⟩ := Fields.sorted_cons.1 hsorted
    have hmem : entry.1 ∈ words := hwords _ List.mem_cons_self
    -- The other words are those that are counted by the other entries.
    have hothers : ∀ word ∈ Fields.names rest, word ∈ words.erase entry.1 := fun word hword =>
      Finset.mem_erase.2 ⟨(String.ne_of_lt (hfirst word hword)).symm,
        hwords word (List.mem_cons_of_mem _ hword)⟩
    have hsame : ∑ word ∈ words.erase entry.1, f word ((Fields.value? rest word).getD 0) =
        ∑ word ∈ words.erase entry.1, f word ((Fields.value? (entry :: rest) word).getD 0) :=
      Finset.sum_congr rfl fun word hword => by
        rw [Fields.value?_cons, if_neg (Finset.ne_of_mem_erase hword).symm]
    rw [List.foldl_cons, ih hrest hothers, hsame, ← Finset.add_sum_erase _ _ hmem,
      Fields.value?_cons, if_pos rfl, Option.getD_some, Nat.add_assoc]

/-- The product of the counts of `query` and `text` is a sum over the words of both. -/
theorem product_ofText (query text : String) :
    (ofText query).product (ofText text) =
      ∑ word ∈ allWords query text, occurrences query word * occurrences text word := by
  have hwords : ∀ word ∈ (ofText query).names, word ∈ allWords query text := fun word hword =>
    List.mem_toFinset.2 (List.mem_append_left _ ((mem_names_ofText query word).1 hword))
  rw [product, foldl_eq_sum (sorted_ofText query)
    (f := fun word n => n * ((ofText text).value? word).getD 0) (fun _ => Nat.zero_mul _) hwords,
    Nat.zero_add]
  simp only [getD_value?_ofText]

/-- The square of the counts of `text` is a sum over any set of `words` that contains its own. -/
theorem square_ofText {text : String} {words : Finset String}
    (hwords : ∀ word ∈ lowercaseWords text, word ∈ words) :
    (ofText text).square = ∑ word ∈ words, occurrences text word ^ 2 := by
  rw [square, foldl_eq_sum (sorted_ofText text) (f := fun _ n => n * n) (fun _ => Nat.zero_mul _)
    (fun word hword => hwords word ((mem_names_ofText text word).1 hword)), Nat.zero_add]
  simp only [getD_value?_ofText, pow_two]

end WordCounts

section Cosine

variable {query text : String}

theorem mem_allWords_left {word : String} (h : word ∈ lowercaseWords query) :
    word ∈ allWords query text :=
  List.mem_toFinset.2 (List.mem_append_left _ h)

theorem mem_allWords_right {word : String} (h : word ∈ lowercaseWords text) :
    word ∈ allWords query text :=
  List.mem_toFinset.2 (List.mem_append_right _ h)

/-- The words of `text` are those that occur in it. -/
theorem occurrences_pos_iff {word : String} :
    0 < occurrences text word ↔ word ∈ lowercaseWords text :=
  List.count_pos_iff

/-- If `text` has a word, it is not the zero vector. -/
theorem sum_sq_pos {words : Finset String} {word : String} (hword : word ∈ lowercaseWords text)
    (hmem : word ∈ words) : 0 < ∑ word ∈ words, (occurrences text word : ℝ) ^ 2 := by
  refine Finset.sum_pos' (fun other _ => sq_nonneg _) ⟨word, hmem, ?_⟩
  exact pow_pos (Nat.cast_pos.2 (occurrences_pos_iff.2 hword)) 2

/-- The cosine of `query` and `text` is positive if they share a word, and zero otherwise. -/
theorem cosine_pos_iff : 0 < cosine query text ↔ Shares query text := by
  constructor
  · intro hpos
    -- Without a shared word every product of numbers of occurrences is zero.
    by_contra hnone
    have hzero : ∑ word ∈ allWords query text,
        (occurrences query word : ℝ) * occurrences text word = 0 := by
      refine Finset.sum_eq_zero fun word _ => ?_
      by_contra hne
      obtain ⟨hquery, htext⟩ := mul_ne_zero_iff.1 hne
      exact hnone ⟨word, occurrences_pos_iff.1 (Nat.pos_of_ne_zero (Nat.cast_ne_zero.1 hquery)),
        occurrences_pos_iff.1 (Nat.pos_of_ne_zero (Nat.cast_ne_zero.1 htext))⟩
    rw [cosine, hzero, zero_div] at hpos
    exact lt_irrefl _ hpos
  · rintro ⟨word, hquery, htext⟩
    have hmem : word ∈ allWords query text := mem_allWords_left hquery
    have hproduct : 0 < ∑ word ∈ allWords query text,
        (occurrences query word : ℝ) * occurrences text word := by
      refine Finset.sum_pos' (fun other _ => by positivity) ⟨word, hmem, ?_⟩
      exact mul_pos (Nat.cast_pos.2 (occurrences_pos_iff.2 hquery))
        (Nat.cast_pos.2 (occurrences_pos_iff.2 htext))
    exact div_pos hproduct (mul_pos (Real.sqrt_pos.2 (sum_sq_pos htext hmem))
      (Real.sqrt_pos.2 (sum_sq_pos hquery hmem)))

theorem cosine_nonneg : 0 ≤ cosine query text :=
  div_nonneg (Finset.sum_nonneg fun _ _ => mul_nonneg (Nat.cast_nonneg _) (Nat.cast_nonneg _))
    (mul_nonneg (Real.sqrt_nonneg _) (Real.sqrt_nonneg _))

end Cosine

/-- The similarity in real numbers is the cosine. -/
theorem Scale.similarity_exact (query text : String) :
    exact.similarity (.ofText query) (.ofText text) = cosine query text := by
  have hproduct : (((WordCounts.ofText query).product (.ofText text) : ℕ) : ℝ) =
      ∑ word ∈ allWords query text, (occurrences query word : ℝ) * occurrences text word := by
    rw [WordCounts.product_ofText]
    push_cast
    rfl
  have hquery : (((WordCounts.ofText query).square : ℕ) : ℝ) =
      ∑ word ∈ allWords query text, (occurrences query word : ℝ) ^ 2 := by
    rw [WordCounts.square_ofText fun _ => @mem_allWords_left query text _]
    push_cast
    rfl
  have htext : (((WordCounts.ofText text).square : ℕ) : ℝ) =
      ∑ word ∈ allWords query text, (occurrences text word : ℝ) ^ 2 := by
    rw [WordCounts.square_ofText fun _ => @mem_allWords_right query text _]
    push_cast
    rfl
  unfold similarity
  split
  · next hzero =>
    -- One of the lengths is zero, and so is the quotient.
    rw [cosine, ← hquery, ← htext]
    rcases hzero with hzero | hzero <;> simp [hzero, exact]
  · show (((WordCounts.ofText query).product (.ofText text) : ℕ) : ℝ) /
      (√((WordCounts.ofText text).square : ℕ) * √((WordCounts.ofText query).square : ℕ)) = _
    rw [hproduct, hquery, htext, cosine]

section Sorting

variable {α : Type} {le : α → α → Bool} (trans : ∀ a b c, le a b → le b c → le a c)
  (total : ∀ a b, le a b || le b a)

include trans total

/-- Sorting leaves the entries that are as good as `a` in their order. -/
theorem filter_mergeSort (entries : List α) (a : α) :
    (entries.mergeSort le).filter (fun b => le a b && le b a) =
      entries.filter fun b => le a b && le b a := by
  -- These entries are sorted already, so they are a part of the sorted ones, and all that there is.
  have hsorted : (entries.filter fun b => le a b && le b a).Pairwise fun b c => le b c = true := by
    refine List.pairwise_of_forall_mem_list fun b hb c hc => ?_
    have hb := (List.mem_filter.1 hb).2
    have hc := (List.mem_filter.1 hc).2
    rw [Bool.and_eq_true] at hb hc
    exact trans b a c hb.2 hc.1
  have hpart := List.sublist_mergeSort trans total hsorted List.filter_sublist
  have hfiltered := hpart.filter fun b => le a b && le b a
  rw [List.filter_filter] at hfiltered
  simp only [Bool.and_self] at hfiltered
  refine (hfiltered.eq_of_length ?_).symm
  exact (((List.mergeSort_perm entries le).filter _).length_eq).symm

/-- If entries are sorted that were in ascending order before, those of the same rank still are. -/
theorem pairwise_mergeSort_of_ascending [LT α] {entries : List α}
    (hascending : entries.Pairwise (· < ·)) :
    (entries.mergeSort le).Pairwise fun a b => le a b = true ∧ (le b a = true → a < b) := by
  rw [List.pairwise_iff_forall_sublist]
  intro a b hpair
  have hle := List.pairwise_iff_forall_sublist.1 (List.pairwise_mergeSort trans total entries) hpair
  refine ⟨hle, fun hback => ?_⟩
  have hself : le a a = true := trans a b a hle hback
  -- Entries of the same rank stand in the sorted list as they stood before.
  have hclass := hpair.filter fun c => le a c && le c a
  rw [filter_mergeSort trans total] at hclass
  simp only [List.filter_cons, hself, hle, hback, Bool.and_self, if_true, List.filter_nil] at hclass
  exact List.pairwise_iff_forall_sublist.1 (hascending.sublist List.filter_sublist) hclass

end Sorting

namespace Corpus

/-- The similarity of `query` and the document at the place `i` of `corpus`. -/
def similarity {σ : Type} (scale : Scale σ) (corpus : Corpus) (query : String)
    (i : Fin corpus.length) : σ :=
  scale.similarity (.ofText query) (.ofText (corpus.get i).text)

/-- The places of the documents that a search for `query` finds, in its order. -/
def ranking {σ : Type} (scale : Scale σ) (corpus : Corpus) (query : String) :
    List (Fin corpus.length) :=
  ((List.finRange corpus.length).filter fun i =>
    scale.isPositive (similarity scale corpus query i)).mergeSort fun i j =>
      scale.le (similarity scale corpus query j) (similarity scale corpus query i)

/-- The `places` are those of the documents that share words with `query`, from the most similar one
on, and those of equal similarity in the order of `corpus`. -/
structure Ranks (corpus : Corpus) (query : String) (places : List (Fin corpus.length)) : Prop where
  /-- No place occurs twice. -/
  nodup : places.Nodup
  /-- The places are those of the documents that share words with `query`. -/
  mem_iff : ∀ i, i ∈ places ↔ Shares query (corpus.get i).text
  /-- A document is more similar than each one behind it, or as similar and before it in
  `corpus`. -/
  ordered : places.Pairwise fun i j =>
    cosine query (corpus.get j).text < cosine query (corpus.get i).text ∨
      cosine query (corpus.get i).text = cosine query (corpus.get j).text ∧ i < j

section Scales

variable {σ : Type} (scale : Scale σ) (corpus : Corpus) (query : String)

/-- What is scored are the documents at the places where the similarity is positive. -/
theorem score_eq_map :
    corpus.score scale query =
      ((List.finRange corpus.length).filter fun i =>
        scale.isPositive (similarity scale corpus query i)).map fun i =>
          (similarity scale corpus query i, corpus.get i) := by
  have hplaces : (corpus.map fun document =>
      (scale.similarity (.ofText query) (.ofText document.text), document)) =
        (List.finRange corpus.length).map fun i =>
          (similarity scale corpus query i, corpus.get i) := by
    conv_lhs => rw [← List.map_get_finRange corpus, List.map_map]
    rfl
  simp only [score, hplaces, List.filter_map]
  rfl

/-- A search for `count` documents gives the front of the ranking. -/
theorem searchIn_eq_take (count : Nat) :
    corpus.searchIn scale query count =
      ((ranking scale corpus query).take count).map corpus.get := by
  have hsorted := List.map_mergeSort
    (r := fun i j => scale.le (similarity scale corpus query j) (similarity scale corpus query i))
    (s := fun s t : σ × Document => scale.le t.1 s.1)
    (f := fun i => (similarity scale corpus query i, corpus.get i))
    (l := (List.finRange corpus.length).filter fun i =>
      scale.isPositive (similarity scale corpus query i)) fun _ _ _ _ => rfl
  rw [searchIn, score_eq_map, ← hsorted, ← List.map_take, List.map_map]
  rfl

/-- A search for `count` documents finds the front of what a search for `more` of them finds. -/
theorem searchIn_isPrefix {count more : Nat} (h : count ≤ more) :
    corpus.searchIn scale query count <+: corpus.searchIn scale query more := by
  rw [searchIn_eq_take, searchIn_eq_take]
  exact (List.take_prefix_take_left h).map _

/-- Two scales that tell the same similarities positive and compare them in the same way find the
same documents. -/
theorem searchIn_congr {τ : Type} {scale' : Scale τ}
    (hpositive : ∀ i, scale.isPositive (similarity scale corpus query i) =
      scale'.isPositive (similarity scale' corpus query i))
    (hle : ∀ i j, scale.le (similarity scale corpus query i) (similarity scale corpus query j) =
      scale'.le (similarity scale' corpus query i) (similarity scale' corpus query j))
    (count : Nat) :
    corpus.searchIn scale query count = corpus.searchIn scale' query count := by
  rw [searchIn_eq_take, searchIn_eq_take, ranking, ranking]
  simp only [hpositive, hle]

end Scales

variable (corpus : Corpus) (query : String)

/-- The ranking in real numbers is the one by cosines. -/
theorem ranks_ranking_exact : corpus.Ranks query (ranking .exact corpus query) := by
  -- What is found is sorted stably, and before the sort it is in the order of the corpus.
  have hperm := List.mergeSort_perm ((List.finRange corpus.length).filter fun i =>
    Scale.exact.isPositive (similarity .exact corpus query i)) fun i j =>
      Scale.exact.le (similarity .exact corpus query j) (similarity .exact corpus query i)
  have hascending : ((List.finRange corpus.length).filter fun i =>
      Scale.exact.isPositive (similarity .exact corpus query i)).Pairwise (· < ·) :=
    (List.pairwise_lt_finRange _).sublist List.filter_sublist
  constructor
  case nodup =>
    exact hperm.nodup_iff.2 (hascending.imp fun h => ne_of_lt h)
  case mem_iff =>
    intro i
    rw [ranking, hperm.mem_iff, List.mem_filter, similarity, Scale.similarity_exact,
      ← cosine_pos_iff]
    simp [Scale.exact, List.mem_finRange]
  case ordered =>
    have hle : ∀ i j, Scale.exact.le (similarity .exact corpus query j)
        (similarity .exact corpus query i) = true ↔
          cosine query (corpus.get j).text ≤ cosine query (corpus.get i).text := by
      intro i j
      rw [similarity, similarity, Scale.similarity_exact, Scale.similarity_exact]
      exact decide_eq_true_iff
    have hsorted := pairwise_mergeSort_of_ascending
      (fun i j k hij hjk => (hle i k).2 (((hle j k).1 hjk).trans ((hle i j).1 hij)))
      (fun i j => Bool.or_eq_true_iff.2 ((le_total _ _).imp (hle i j).2 (hle j i).2)) hascending
    -- Neighbours with the same cosine have kept their order.
    refine hsorted.imp fun {i j} h => ?_
    obtain ⟨hij, hback⟩ := h
    rw [hle] at hij hback
    rcases hij.lt_or_eq with hlt | heq
    · exact .inl hlt
    · exact .inr ⟨heq.symm, hback heq.ge⟩

variable {corpus query}

/-- A document `i` that is found is at least as similar to `query` as a document `j` that is left
out. -/
theorem Ranks.cosine_le {places : List (Fin corpus.length)} (h : corpus.Ranks query places)
    {count : Nat} {i j : Fin corpus.length} (hfound : i ∈ places.take count)
    (homitted : j ∉ places.take count) :
    cosine query (corpus.get j).text ≤ cosine query (corpus.get i).text := by
  by_cases hplace : j ∈ places
  · -- The place stands behind those that are found.
    have hordered := h.ordered
    rw [← List.take_append_drop count places] at hordered hplace
    have hbehind := (List.mem_append.1 hplace).resolve_left homitted
    rcases (List.pairwise_append.1 hordered).2.2 i hfound j hbehind with hlt | ⟨heq, -⟩
    · exact hlt.le
    · exact heq.ge
  · -- The document shares no word with the query.
    have hnone : ¬ 0 < cosine query (corpus.get j).text := fun hpos =>
      hplace ((h.mem_iff j).2 (cosine_pos_iff.1 hpos))
    exact (not_lt.1 hnone).trans cosine_nonneg

/-- There is one ranking only. -/
theorem Ranks.unique {places others : List (Fin corpus.length)} (h : corpus.Ranks query places)
    (h' : corpus.Ranks query others) : others = places := by
  have hperm : others.Perm places := (List.perm_ext_iff_of_nodup h'.nodup h.nodup).2 fun i =>
    (h'.mem_iff i).trans (h.mem_iff i).symm
  refine hperm.eq_of_pairwise (fun i j _ _ hij hji => ?_) h'.ordered h.ordered
  -- Of two documents at different places one comes first, by its cosine or by its place.
  rcases hij with hij | ⟨heq, hij⟩ <;> rcases hji with hji | ⟨heq', hji⟩
  · exact absurd hji hij.asymm
  · exact absurd hij heq'.ge.not_gt
  · exact absurd hji heq.ge.not_gt
  · exact absurd hji hij.asymm

variable (corpus query)

/-- There is one ranking by cosines of the documents that share words with `query`, and every search
with exact similarities finds the front of it. So what it finds is at least as similar as what it
leaves out, it finds nothing without words, and it finds the front of what a search for more
finds. -/
theorem exists_ranks :
    ∃ places : List (Fin corpus.length), corpus.Ranks query places ∧
      (∀ others, corpus.Ranks query others → others = places) ∧
      (∀ count, corpus.searchIn .exact query count = (places.take count).map corpus.get) ∧
      (∀ count i j, i ∈ places.take count → j ∉ places.take count →
        cosine query (corpus.get j).text ≤ cosine query (corpus.get i).text) ∧
      (∀ i, lowercaseWords query = [] ∨ lowercaseWords (corpus.get i).text = [] → i ∉ places) ∧
      ∀ count more, count ≤ more →
        corpus.searchIn .exact query count <+: corpus.searchIn .exact query more := by
  have hranks := ranks_ranking_exact corpus query
  refine ⟨_, hranks, fun _ => hranks.unique, searchIn_eq_take .exact corpus query,
    fun _ _ _ => hranks.cosine_le, ?_, fun _ _ => searchIn_isPrefix .exact corpus query⟩
  intro i hwordless hplace
  obtain ⟨word, hquery, htext⟩ := (hranks.mem_iff i).1 hplace
  rcases hwordless with hnone | hnone
  · rw [hnone] at hquery
    exact List.not_mem_nil hquery
  · rw [hnone] at htext
    exact List.not_mem_nil htext

end Corpus

end Promptbook
