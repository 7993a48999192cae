import Mathlib.Data.List.Induction
import Promptbook.Retrieval.Library

/-!
# What a Library Keeps

A library keeps a corpus from the time it is read until it is forgotten, whatever happens to the
files meanwhile. Here that is said of the operations that it has seen: the operations since the last
one that made it forget a location, and among them the first that could read the corpus there.

The files may be different ones at every operation. Nothing is assumed of them, so that they may
have been written, removed or made unreadable between any two operations. The first operation that
could read a corpus is the one at which the library does read it: those before it have failed, and
those behind it find it in the library.

## Main definitions

* `Library.Operation`: a request to a library, with the files that it meets.
* `Library.after`: the library after operations.
* `Library.firstLoad?`: the first corpus that could be read for a location since it was last
  forgotten.
* `Library.Coherent`: what a library answers, said of the operations before.

## Main results

* `Library.kept?_apply`: what an operation does to the entry of a location.
* `Library.kept?_after`: the entry of a location after any operations, by induction on them.
* `Library.after_coherent`: libraries are coherent.
-/

namespace Promptbook

namespace Library

/-- What a library can be asked to do. -/
inductive Request where
  /-- To answer the corpus at `location`. -/
  | corpus (location : String)
  /-- To answer at most `count` texts of the corpus at `location`, those most similar to `query`. -/
  | retrieve (query : String) (count : Nat) (location : String)
  /-- To forget the corpus of `location`. -/
  | evict (location : String)
  /-- To forget all corpora. -/
  | clear
  /-- To list the locations whose corpora it keeps. -/
  | locations

namespace Request

/-- The location whose corpus a request asks for. -/
def asked? : Request → Option String
  | corpus location | retrieve _ _ location => some location
  | evict _ | clear | locations => none

/-- Whether a request makes a library forget the corpus of `location`. -/
def forgets (location : String) : Request → Bool
  | evict other => Location.same other location
  | clear => true
  | corpus _ | retrieve .. | locations => false

end Request

/-- A request to a library, with the files that it meets. -/
structure Operation where
  /-- The files at the time of the request. -/
  tree : FileTree
  /-- The request. -/
  request : Request

namespace Operation

/-- The library after the operation `op`. -/
def apply (op : Operation) (library : Library) : Library :=
  match op.request with
  | .corpus location => (Library.corpus op.tree location library).2
  | .retrieve query count location => (Library.retrieve op.tree query count location library).2
  | .evict location => (Library.evict location library).2
  | .clear => (Library.clear library).2
  | .locations => library

/-- The corpus that can be read at `op` if this asks for `location`, with the location as the
operation writes it. -/
def load? (location : String) (op : Operation) : Option (String × Corpus) :=
  match op.request.asked? with
  | some asked =>
    if Location.same asked location then
      match Corpus.ofDirectory op.tree asked with
      | .ok documents => some (asked, documents)
      | .error _ => none
    else none
  | none => none

end Operation

/-- The library after the operations in `history` on a new one, the first of them first. -/
def after (history : List Operation) : Library :=
  history.foldl (fun library op => op.apply library) []

/-- The operations in `history` behind the last one that makes a library forget `location`, or all
of them. -/
def since (location : String) (history : List Operation) : List Operation :=
  (history.reverse.takeWhile fun op => !op.request.forgets location).reverse

/-- The first corpus that could be read for `location` since the library was made or was last made
to forget it, with the location as it was written then. -/
def firstLoad? (location : String) (history : List Operation) : Option (String × Corpus) :=
  (since location history).findSome? (Operation.load? location)

/-- What a request for the corpus of `location` should get after `history`: the first corpus that
could be read, or what can be read from `tree` now. -/
def expected (tree : FileTree) (location : String) (history : List Operation) :
    Except Error Corpus :=
  match firstLoad? location history with
  | some entry => .ok entry.2
  | none => Corpus.ofDirectory tree location

/-- After `history`, a library answers as the operations in it ask for. -/
structure Coherent (history : List Operation) : Prop where
  /-- The corpus of `location` is the first one that could be read, or else the one that `tree`
  holds now. -/
  answered : ∀ tree location,
    (corpus tree location (after history)).1 = expected tree location history
  /-- The texts that are most similar to `query` are searched in this corpus. -/
  ranked : ∀ tree query count location, (retrieve tree query count location (after history)).1 =
    (expected tree location history).map fun documents =>
      (documents.search query count).map Document.text
  /-- If the corpus cannot be read, the library stays as it was, and `location` has no corpus that
  would be used the next time. -/
  failed : ∀ (op : Operation) location e, op.request.asked? = some location →
    expected op.tree location history = .error e →
      op.apply (after history) = after history ∧ firstLoad? location (history ++ [op]) = none
  /-- The library forgets `location` and says that it kept a corpus exactly if one could be read. -/
  evicted : ∀ location, (evict location (after history)).1 = (firstLoad? location history).isSome
  /-- Afterwards it has none for `location`, however that is written, and of an `other` location it
  keeps what it kept. -/
  apart : ∀ location other, (evict location (after history)).2.find? other =
    if Location.same location other then none else (after history).find? other
  /-- The listed locations are sorted by their parts, and none is listed twice. -/
  sorted : (locations (after history)).Pairwise fun l m =>
    Location.partsBefore (Location.parts l) (Location.parts m) = true
  /-- A location is listed as it was written when its corpus was read first. -/
  listed : ∀ location, location ∈ locations (after history) ↔
    ∃ documents, firstLoad? location history = some (location, documents)
  /-- The listed locations are those for which a corpus could be read. -/
  complete : ∀ location, (∃ l ∈ locations (after history), Location.same l location = true) ↔
    (firstLoad? location history).isSome = true

section History

variable {location : String} {history : List Operation} {op : Operation}

/-- One more operation `op` that makes the library forget `location` leaves none behind it; any
other comes at the end. -/
theorem since_append_singleton : since location (history ++ [op]) =
    if op.request.forgets location then [] else since location history ++ [op] := by
  rw [since, List.reverse_append, List.reverse_singleton, List.singleton_append,
    List.takeWhile_cons]
  cases op.request.forgets location with
  | true => rfl
  | false => exact List.reverse_cons

/-- One more operation `op` takes away the first corpus that could be read, keeps it, or is the
first to read one. -/
theorem firstLoad?_append_singleton : firstLoad? location (history ++ [op]) =
    if op.request.forgets location then none
    else (firstLoad? location history).or (op.load? location) := by
  rw [firstLoad?, since_append_singleton]
  split
  · rfl
  · rw [List.findSome?_append, List.findSome?_singleton]
    rfl

/-- The library after `history` and `op` is the one after `history`, changed by `op`. -/
theorem after_append_singleton : after (history ++ [op]) = op.apply (after history) :=
  List.foldl_append

end History

/-- The entry for `location`: the location as it was written first, with its corpus. -/
def kept? (library : Library) (location : String) : Option (String × Corpus) :=
  List.find? (fun entry => Location.same entry.1 location) library

/-- No two entries are for the same location. -/
def Distinct (library : Library) : Prop :=
  library.Pairwise fun entry other => Location.parts entry.1 ≠ Location.parts other.1

section Entries

variable {library : Library} {location other : String}

/-- The corpus kept for `location` is that of its entry. -/
theorem find?_eq_map_kept? : library.find? location = (library.kept? location).map Prod.snd := by
  induction library with
  | nil => rfl
  | cons entry rest ih =>
    rw [find?, ih, kept?, kept?, List.find?_cons]
    cases Location.same entry.1 location <;> rfl

/-- The same location has the same entry, however it is written. -/
theorem kept?_congr (h : Location.same location other = true) :
    library.kept? location = library.kept? other := by
  rw [kept?, kept?]
  simp only [Location.same_congr h]

/-- An `entry` that is found for `location` is in the library, and it is for this location. -/
theorem of_kept?_eq_some {entry : String × Corpus} (h : library.kept? location = some entry) :
    entry ∈ library ∧ Location.same entry.1 location = true :=
  ⟨List.mem_of_find?_eq_some h, by simpa only using List.find?_some h⟩

/-- An `entry` in the library is the one for its location. -/
theorem Distinct.kept?_eq_some (h : library.Distinct) {entry : String × Corpus}
    (hmem : entry ∈ library) : library.kept? entry.1 = some entry := by
  induction h with
  | nil => cases hmem
  | cons hfirst hrest ih =>
    rename_i first rest
    rw [kept?, List.find?_cons]
    rcases List.mem_cons.1 hmem with rfl | hmem
    · rw [Location.same_iff.2 rfl]
    · have hapart : Location.same first.1 entry.1 = false :=
        Bool.eq_false_iff.2 fun hsame => hfirst entry hmem (Location.same_iff.1 hsame)
      rw [hapart]
      exact ih hmem

/-- Forgetting `location` takes its entry away and leaves the others. -/
theorem kept?_forget : (library.forget location).kept? other =
    if Location.same location other then none else library.kept? other := by
  cases hsame : Location.same location other with
  | true =>
    refine List.find?_eq_none.2 fun entry hmem => ?_
    have hkept : Location.same entry.1 location = false :=
      Bool.not_eq_true' _ ▸ (List.mem_filter.1 hmem).2
    rw [← Location.same_congr hsame, hkept]
    exact Bool.false_ne_true
  -- The entry that is looked for is none of those that are filtered out.
  | false =>
    refine List.find?_filter.trans (congrArg (List.find? · library) (funext fun entry => ?_))
    cases hentry : Location.same entry.1 other with
    | false => simp
    | true =>
      have hkept : Location.same entry.1 location = false := by
        rw [Bool.eq_false_iff]
        intro hback
        rw [Location.same, Location.same_iff.1 hback, ← Location.same, hsame] at hentry
        cases hentry
      simp [hkept]

end Entries

section Steps

variable {library : Library} {location : String} {op : Operation}

/-- At an operation `op` that asks for another location nothing is read for `location`. -/
theorem Operation.load?_of_asked? {asked : String} (hasked : op.request.asked? = some asked)
    (h : Location.same asked location = false) : op.load? location = none := by
  rw [load?, hasked]
  simp [h]

/-- A request for the texts of a corpus does to the library what a request for the corpus does. -/
theorem snd_retrieve (tree : FileTree) (query : String) (count : Nat) :
    (retrieve tree query count location library).2 = (corpus tree location library).2 := by
  simp only [retrieve, bind, StateT.bind]
  rcases corpus tree location library with ⟨result, library'⟩
  cases result <;> rfl

/-- An operation `op` that asks for `location` reads its corpus if none is kept. -/
theorem Operation.apply_of_asked? (h : op.request.asked? = some location) :
    op.apply library = (corpus op.tree location library).2 := by
  rcases op with ⟨tree, request⟩
  cases request with
  | corpus asked => cases h; rfl
  | retrieve query count asked => cases h; exact snd_retrieve tree query count
  | evict _ => cases h
  | clear => cases h
  | locations => cases h

/-- A corpus that has been read becomes the entry of its location if there was none. -/
theorem kept?_corpus {asked : String} (hasked : op.request.asked? = some asked) :
    kept? (corpus op.tree asked library).2 location =
      (library.kept? location).or (op.load? location) := by
  cases hsame : Location.same asked location with
  | false =>
    -- What is read is put in front of the entries, for another location.
    rw [op.load?_of_asked? hasked hsame, Option.or_none, corpus]
    cases library.find? asked with
    | some documents => rfl
    | none =>
      cases Corpus.ofDirectory op.tree asked with
      | ok documents => exact List.find?_cons_of_neg (Bool.eq_false_iff.1 hsame)
      | error e => rfl
  | true =>
    -- The two spellings have the same entry, so only the one that is asked for matters.
    rw [← kept?_congr hsame, ← kept?_congr hsame, corpus, find?_eq_map_kept?]
    cases hkept : library.kept? asked with
    | some entry => exact hkept
    | none =>
      rw [Option.none_or, Operation.load?, hasked]
      simp only [hsame, if_true, Option.map_none]
      cases Corpus.ofDirectory op.tree asked with
      | ok documents => exact List.find?_cons_of_pos (Location.same_iff.2 rfl)
      | error e => exact hkept

/-- What `op` does to the entry of `location`: it is forgotten, it stays, or it is read if there was
none. -/
theorem kept?_apply : (op.apply library).kept? location =
    if op.request.forgets location then none
    else (library.kept? location).or (op.load? location) := by
  cases hasked : op.request.asked? with
  | some asked =>
    have hforgets : op.request.forgets location = false := by
      cases hrequest : op.request <;> rw [hrequest] at hasked <;> first | rfl | cases hasked
    rw [op.apply_of_asked? hasked, kept?_corpus hasked, hforgets]
    rfl
  | none =>
    have hload : op.load? location = none := by rw [Operation.load?, hasked]
    rw [hload, Option.or_none, Operation.apply]
    cases hrequest : op.request with
    | corpus | retrieve => rw [hrequest] at hasked; cases hasked
    | evict other => exact kept?_forget
    | clear => rfl
    | locations => rfl

/-- The entry of `location` after `history` is the first corpus that could be read for it since it
was forgotten. -/
theorem kept?_after (history : List Operation) :
    (after history).kept? location = firstLoad? location history := by
  induction history using List.reverseRecOn with
  | nil => rfl
  | append_singleton history op ih =>
    rw [after_append_singleton, kept?_apply, firstLoad?_append_singleton, ih]

/-- An operation `op` keeps the entries apart: a corpus is read only if its location has no
entry. -/
theorem Distinct.apply (h : library.Distinct) : (op.apply library).Distinct := by
  have hforget : ∀ location, (library.forget location).Distinct := fun _ => List.Pairwise.filter _ h
  cases hasked : op.request.asked? with
  | some asked =>
    rw [op.apply_of_asked? hasked, corpus, find?_eq_map_kept?]
    cases hkept : library.kept? asked with
    | some entry => exact h
    | none =>
      simp only [Option.map_none]
      cases Corpus.ofDirectory op.tree asked with
      | error e => exact h
      | ok documents =>
        refine List.pairwise_cons.2 ⟨fun entry hmem hparts => ?_, h⟩
        exact List.find?_eq_none.1 hkept entry hmem (Location.same_iff.2 hparts.symm)
  | none =>
    rw [Operation.apply]
    cases hrequest : op.request with
    | corpus | retrieve => rw [hrequest] at hasked; cases hasked
    | evict location => exact hforget location
    | clear => exact List.Pairwise.nil
    | locations => exact h

/-- After any `history` the entries are apart. -/
theorem distinct_after (history : List Operation) : (after history).Distinct := by
  induction history using List.reverseRecOn with
  | nil => exact List.Pairwise.nil
  | append_singleton history op ih =>
    rw [after_append_singleton]
    exact ih.apply

end Steps

section Answers

variable {tree : FileTree} {location : String} {history : List Operation} {library : Library}

/-- The corpus kept for `location` after `history` is the first that could be read. -/
theorem find?_after :
    (after history).find? location = (firstLoad? location history).map Prod.snd := by
  rw [find?_eq_map_kept?, kept?_after]

/-- A request for the corpus of `location` gets the kept one or the one read from `tree`. -/
theorem fst_corpus_after :
    (corpus tree location (after history)).1 = expected tree location history := by
  rw [corpus, find?_after, expected]
  cases firstLoad? location history with
  | some entry => rfl
  | none => cases hread : Corpus.ofDirectory tree location <;> simp only [Option.map_none]

/-- A request for texts searches the corpus that a request for the corpus would get. -/
theorem fst_retrieve (query : String) (count : Nat) :
    (retrieve tree query count location library).1 =
      (corpus tree location library).1.map fun documents =>
        (documents.search query count).map Document.text := by
  simp only [retrieve, bind, StateT.bind]
  rcases corpus tree location library with ⟨result, library'⟩
  cases result <;> rfl

/-- If the corpus of `location` cannot be read, the library stays as it was. -/
theorem snd_corpus_of_error {e : Error} (h : (corpus tree location library).1 = .error e) :
    (corpus tree location library).2 = library := by
  unfold corpus at h ⊢
  split at h
  · cases h
  · split at h
    · cases h
    · rfl

/-- What has been read for a location has been read for it however it is written. -/
theorem firstLoad?_congr {other : String} (h : Location.same location other = true) :
    firstLoad? location history = firstLoad? other history := by
  rw [← kept?_after, ← kept?_after, kept?_congr h]

/-- A `location` is listed exactly if it is that of an entry. -/
theorem mem_locations_iff (h : library.Distinct) :
    location ∈ locations library ↔
      ∃ documents, library.kept? location = some (location, documents) := by
  rw [locations, List.mem_mergeSort, List.mem_map]
  constructor
  · rintro ⟨entry, hmem, rfl⟩
    exact ⟨entry.2, h.kept?_eq_some hmem⟩
  · rintro ⟨documents, hentry⟩
    exact ⟨_, (of_kept?_eq_some hentry).1, rfl⟩

/-- The listed locations are sorted, and none of them is listed twice. -/
theorem pairwise_locations (h : library.Distinct) :
    (locations library).Pairwise fun l m =>
      Location.partsBefore (Location.parts l) (Location.parts m) = true := by
  -- The sort alone gives an order that is not strict; entries that are apart make it strict.
  have htrans : ∀ l m n, Location.notAfter l m = true → Location.notAfter m n = true →
      Location.notAfter l n = true := fun _ _ _ => Location.notAfter_trans
  have hsorted := List.pairwise_mergeSort htrans Location.notAfter_total (library.map Prod.fst)
  have hapart : (library.map Prod.fst).Pairwise fun l m => Location.parts l ≠ Location.parts m :=
    List.pairwise_map.2 h
  have hboth := hsorted.and (hapart.perm (List.mergeSort_perm _ Location.notAfter).symm Ne.symm)
  exact hboth.imp fun hlm => (Location.notAfter_iff.1 hlm.1).resolve_right hlm.2

end Answers

/-- Whatever has been asked of a library in `history`, and whatever files it met, it is coherent. -/
theorem after_coherent (history : List Operation) : Coherent history where
  answered tree location := fst_corpus_after
  ranked tree query count location := by rw [fst_retrieve, fst_corpus_after]
  failed op location e hasked hexpected := by
    have hfailed := hexpected
    rw [← fst_corpus_after] at hfailed
    have hsame : op.apply (after history) = after history := by
      rw [op.apply_of_asked? hasked, snd_corpus_of_error hfailed]
    refine ⟨hsame, ?_⟩
    rw [← kept?_after, after_append_singleton, hsame, kept?_after]
    -- If there were a corpus to be used, it would have been answered.
    rw [expected] at hexpected
    cases hload : firstLoad? location history with
    | some entry => rw [hload] at hexpected; cases hexpected
    | none => rfl
  evicted location := by
    show ((after history).find? location).isSome = _
    rw [find?_after, Option.isSome_map]
  apart location other := by
    rw [evict, find?_eq_map_kept?, kept?_forget, find?_eq_map_kept?]
    split <;> rfl
  sorted := pairwise_locations (distinct_after history)
  listed location := by rw [mem_locations_iff (distinct_after history), kept?_after]
  complete location := by
    constructor
    · rintro ⟨l, hmem, hsame⟩
      obtain ⟨documents, hentry⟩ := (mem_locations_iff (distinct_after history)).1 hmem
      rw [← firstLoad?_congr hsame, ← kept?_after, hentry]
      rfl
    · intro hload
      obtain ⟨entry, hentry⟩ := Option.isSome_iff_exists.1 hload
      obtain ⟨hmem, hsame⟩ := of_kept?_eq_some (kept?_after history ▸ hentry)
      exact ⟨entry.1, List.mem_mergeSort.2 (List.mem_map_of_mem hmem), hsame⟩

end Library

end Promptbook
