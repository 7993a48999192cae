import Mathlib.Data.Finset.Card
import Promptbook.Directive.Reference

/-!
# Collected Arguments

Arguments are collected by insertions: of entries that are given, of written items that are
evaluated, or of arguments whose references are resolved. The sequence of the insertions determines
what is collected. Every name occurs once, at the place of its first insertion and with the value of
its last one. So a sequence may be cut anywhere, and its parts collected before they are put
together.

## Main definitions

* `Arguments.IsLast`: the last entry under a name has this value.
* `Arguments.Collects`: what arguments keep of the insertions that they come from.
* `Arguments.ReadsBack`: what reading such arguments gives.
* `PendingArguments.take`: evaluating some of the items one at a time.

## Main results

* `Collects.insert`: what one more insertion keeps.
* `Collects.insertAll`: what a sequence of insertions keeps.
* `Collects.unique`: the insertions determine the arguments.
* `Collects.append`: arguments that are collected apart may be inserted one by one.
* `Arguments.readsBack_collected`: however arguments are collected, reading them gives the names in
  the order of their first insertions and the last value of each.
-/

namespace Promptbook

namespace Arguments

/-- The last of `entries` under the name `key` has this `value`. -/
def IsLast (entries : List (String × Value)) (key : String) (value : Value) : Prop :=
  ∃ early late, entries = early ++ (key, value) :: late ∧ key ∉ late.map Prod.fst

/-- What `arguments` keep of the `entries` that have been inserted. -/
structure Collects (arguments : Arguments) (entries : List (String × Value)) : Prop where
  /-- No name occurs twice among the arguments. -/
  distinct : (arguments.map Prod.fst).Nodup
  /-- The names of the arguments are those that have been inserted. -/
  mentioned : ∀ key, key ∈ arguments.map Prod.fst ↔ key ∈ entries.map Prod.fst
  /-- The names are in the order of their first insertions. -/
  ordered : (arguments.map Prod.fst).Pairwise fun before behind =>
    (entries.map Prod.fst).idxOf before < (entries.map Prod.fst).idxOf behind
  /-- Every name has the value that has been inserted last. -/
  last : ∀ key value, arguments.value? key = some value ↔ IsLast entries key value

/-- What reading `arguments` gives once `entries` have been inserted. -/
structure ReadsBack (arguments : Arguments) (entries : List (String × Value)) : Prop
    extends arguments.Collects entries where
  /-- Going through the arguments meets the last entry of every name, and no other. -/
  members : ∀ key value, (key, value) ∈ arguments ↔ IsLast entries key value
  /-- There are as many arguments as there are different names. -/
  length : arguments.length = (entries.map Prod.fst).toFinset.card
  /-- The name `firstKey?` is the one that has been inserted first. -/
  first : arguments.firstKey? = entries.head?.map Prod.fst
  /-- No `other` arguments keep the same of the insertions. -/
  unique : ∀ other : Arguments, other.Collects entries → other = arguments

section Last

variable {early late : List (String × Value)} {key : String} {value : Value}

/-- In `early ++ late`, the last entry under `key` is that in `late`, or that in `early` if `late`
has none. -/
theorem isLast_append :
    IsLast (early ++ late) key value ↔
      IsLast late key value ∨ key ∉ late.map Prod.fst ∧ IsLast early key value := by
  constructor
  · rintro ⟨before, behind, hentries, hbehind⟩
    rcases List.append_eq_append_iff.1 hentries with ⟨part, -, hlate⟩ | ⟨part, hearly, hrest⟩
    · exact .inl ⟨part, behind, hlate, hbehind⟩
    · cases part with
      | nil => exact .inl ⟨[], behind, hrest.symm, hbehind⟩
      | cons entry part =>
        rw [List.cons_append] at hrest
        obtain ⟨rfl, rfl⟩ := List.cons.inj hrest
        rw [List.map_append, List.mem_append, not_or] at hbehind
        exact .inr ⟨hbehind.2, before, part, hearly, hbehind.1⟩
  · rintro (⟨before, behind, rfl, hbehind⟩ | ⟨hlate, before, behind, rfl, hbehind⟩)
    · exact ⟨early ++ before, behind, (List.append_assoc ..).symm, hbehind⟩
    · refine ⟨before, behind ++ late, List.append_assoc .., ?_⟩
      rw [List.map_append, List.mem_append, not_or]
      exact ⟨hbehind, hlate⟩

/-- A single `entry` is the last one under its name. -/
theorem isLast_singleton {entry : String × Value} :
    IsLast [entry] key value ↔ entry = (key, value) := by
  constructor
  · rintro ⟨before, behind, hentry, -⟩
    rcases List.singleton_eq_append_iff.1 hentry with ⟨-, hbehind⟩ | ⟨-, hnil⟩
    · exact (List.cons.inj hbehind).1.symm
    · cases hnil
  · rintro rfl
    exact ⟨[], [], rfl, List.not_mem_nil⟩

end Last

section Lookup

variable {arguments other : Arguments}

/-- Where names are distinct, `value?` gives the value of the entry with the name. -/
theorem mem_iff_value? (h : (arguments.map Prod.fst).Nodup) {key : String} {value : Value} :
    (key, value) ∈ arguments ↔ arguments.value? key = some value := by
  induction arguments with
  | nil => simp [value?]
  | cons entry rest ih =>
    obtain ⟨hfresh, hrest⟩ := List.nodup_cons.1 h
    rw [List.mem_cons, value?]
    split
    · next hkey =>
      -- The name does not occur again behind its entry.
      have hbehind : (key, value) ∉ rest := fun hmem =>
        hfresh (hkey ▸ List.mem_map_of_mem hmem)
      simp [Prod.ext_iff, hkey, hbehind, eq_comm]
    · next hkey =>
      rw [ih hrest]
      exact or_iff_right fun heq => hkey (congrArg Prod.fst heq).symm

/-- Arguments with distinct names are determined by their names and by the value of each name. -/
theorem ext_value? (h : (arguments.map Prod.fst).Nodup)
    (hnames : other.map Prod.fst = arguments.map Prod.fst)
    (hvalue : ∀ key, other.value? key = arguments.value? key) : other = arguments := by
  -- The entries can be spelled out from the names and the look-up.
  have hspelled : ∀ {arguments : Arguments}, (arguments.map Prod.fst).Nodup →
      arguments.map (fun entry => (entry.1, some entry.2)) =
        (arguments.map Prod.fst).map fun key => (key, arguments.value? key) := by
    intro arguments hdistinct
    rw [List.map_map]
    refine List.map_congr_left fun entry hentry => ?_
    rw [Function.comp_apply, (mem_iff_value? hdistinct).1 hentry]
  have hinjective : Function.Injective fun entry : String × Value => (entry.1, some entry.2) :=
    fun entry entry' heq => by simpa [Prod.ext_iff] using heq
  refine hinjective.list_map ?_
  rw [hspelled h, hspelled (hnames ▸ h), hnames, funext hvalue]

end Lookup

namespace Collects

variable {arguments other : Arguments} {entries early late : List (String × Value)}

/-- Without insertions there are no arguments. -/
theorem nil : Collects [] [] where
  distinct := .nil
  mentioned _ := .rfl
  ordered := .nil
  last key value := by
    refine ⟨nofun, fun ⟨before, behind, hentries, _⟩ => ?_⟩
    cases List.append_ne_nil_of_right_ne_nil before (List.cons_ne_nil _ behind) hentries.symm

/-- One more insertion leaves the places of the names, adds `key` at the end if it is new, and is
the last one under `key`. -/
theorem insert (h : arguments.Collects entries) (key : String) (value : Value) :
    (arguments.insert key value).Collects (entries ++ [(key, value)]) := by
  constructor
  case distinct => exact nodup_keys_insertAll h.distinct [(key, value)]
  case mentioned =>
    intro name
    rw [keys_insert, List.map_append, List.mem_append, ← h.mentioned]
    split
    · next hold =>
      refine ⟨.inl, fun hname => hname.elim id fun heq => ?_⟩
      rwa [List.mem_singleton.1 heq]
    · exact List.mem_append
  case ordered =>
    rw [keys_insert, List.map_append]
    -- The places of first insertions stay.
    have hold : (arguments.map Prod.fst).Pairwise fun before behind =>
        (entries.map Prod.fst ++ [key]).idxOf before <
          (entries.map Prod.fst ++ [key]).idxOf behind := by
      refine h.ordered.imp_of_mem fun hbefore hbehind hlt => ?_
      rwa [List.idxOf_append_of_mem ((h.mentioned _).1 hbefore),
        List.idxOf_append_of_mem ((h.mentioned _).1 hbehind)]
    split
    · exact hold
    · next hnew =>
      refine List.pairwise_append.2 ⟨hold, List.pairwise_singleton _ _, ?_⟩
      intro before hbefore behind hbehind
      rw [List.mem_singleton.1 hbehind, List.idxOf_append_of_mem ((h.mentioned _).1 hbefore),
        List.idxOf_append_of_notMem (mt (h.mentioned _).2 hnew)]
      exact Nat.lt_add_right _ (List.idxOf_lt_length_of_mem ((h.mentioned _).1 hbefore))
  case last =>
    intro name v
    rw [value?_insert, isLast_append, isLast_singleton, ← h.last]
    by_cases hname : key = name
    · simp [hname]
    · simp [hname, Ne.symm hname]

/-- Arguments that keep the insertions `early` keep those in `late` as well when these are made. -/
theorem insertAll (h : arguments.Collects early) (late : List (String × Value)) :
    (arguments.insertAll late).Collects (early ++ late) := by
  -- Each insertion takes its entry over from the later ones to the earlier ones.
  induction late generalizing arguments early with
  | nil => rwa [List.append_nil]
  | cons entry late ih =>
    rw [List.append_cons]
    exact ih (h.insert entry.1 entry.2)

/-- What is collected from no arguments keeps the `entries` that are collected. -/
theorem collect (entries : List (String × Value)) : (collect entries).Collects entries :=
  nil.insertAll entries

/-- The insertions determine the arguments that keep them. -/
theorem unique (h : arguments.Collects entries) (h' : other.Collects entries) :
    other = arguments := by
  have hmembers : ∀ key, key ∈ other.map Prod.fst ↔ key ∈ arguments.map Prod.fst := fun key =>
    (h'.mentioned key).trans (h.mentioned key).symm
  -- Both are the same names in the order of the same places.
  have hnames : other.map Prod.fst = arguments.map Prod.fst :=
    ((List.perm_ext_iff_of_nodup h'.distinct h.distinct).2 hmembers).eq_of_pairwise
      (fun _ _ _ _ hlt hgt => absurd hlt (Nat.lt_asymm hgt)) h'.ordered h.ordered
  refine ext_value? h.distinct hnames fun key => Option.ext fun value => ?_
  rw [h'.last, h.last]

/-- If the name `before` has its place before that of `behind`, it has been inserted before it. -/
theorem idxOf_lt (h : arguments.Collects entries) {before behind : String}
    (hbehind : behind ∈ arguments.map Prod.fst)
    (hlt : (arguments.map Prod.fst).idxOf before < (arguments.map Prod.fst).idxOf behind) :
    (entries.map Prod.fst).idxOf before < (entries.map Prod.fst).idxOf behind := by
  have hplace := List.idxOf_lt_length_of_mem hbehind
  have hordered := List.pairwise_iff_getElem.1 h.ordered _ _ (hlt.trans hplace) hplace hlt
  rwa [List.getElem_idxOf, List.getElem_idxOf] at hordered

/-- If `arguments` keep `early` and `other` arguments keep `late`, inserting the others one by one
gives arguments that keep both. -/
theorem append (h : arguments.Collects early) (h' : other.Collects late) :
    (arguments.insertAll other).Collects (early ++ late) := by
  have hrun := h.insertAll other
  -- Names that are distinct are their own first insertions, and each entry is the last of its name.
  have hself : other.Collects other := by
    have hcollect := collect other
    rwa [collect_of_nodup h'.distinct] at hcollect
  constructor
  case distinct => exact hrun.distinct
  case mentioned =>
    intro key
    rw [hrun.mentioned, List.map_append, List.map_append, List.mem_append, List.mem_append,
      h'.mentioned]
  case ordered =>
    refine hrun.ordered.imp_of_mem fun {before behind} _ hbehind hlt => ?_
    rw [hrun.mentioned, List.map_append, List.mem_append] at hbehind
    rw [List.map_append, List.idxOf_append, List.idxOf_append] at hlt ⊢
    -- Names of the first part come first; the others are in the order of the second part.
    by_cases hfront : behind ∈ early.map Prod.fst
    · have hplace := List.idxOf_lt_length_of_mem hfront
      by_cases hfront' : before ∈ early.map Prod.fst
      · simpa only [hfront, hfront', if_true] using hlt
      · simp only [hfront, hfront', if_true, if_false] at hlt
        omega
    · by_cases hfront' : before ∈ early.map Prod.fst
      · have hplace := List.idxOf_lt_length_of_mem hfront'
        simp only [hfront, hfront', if_true, if_false]
        omega
      · simp only [hfront, hfront', if_false] at hlt ⊢
        exact Nat.add_lt_add_right
          (h'.idxOf_lt (hbehind.resolve_left hfront) (Nat.lt_of_add_lt_add_right hlt)) _
  case last =>
    intro key value
    rw [hrun.last, isLast_append, isLast_append, ← hself.last, h'.last, h'.mentioned]

/-- There are as many arguments as there are different names among the `entries`. -/
theorem length_eq (h : arguments.Collects entries) :
    arguments.length = (entries.map Prod.fst).toFinset.card := by
  have hnames : (entries.map Prod.fst).toFinset = (arguments.map Prod.fst).toFinset :=
    Finset.ext fun key => by rw [List.mem_toFinset, List.mem_toFinset, h.mentioned]
  rw [hnames, List.toFinset_card_of_nodup h.distinct, List.length_map]

/-- The name of the first argument is the one that has been inserted first. -/
theorem firstKey?_eq (h : arguments.Collects entries) :
    arguments.firstKey? = entries.head?.map Prod.fst := by
  cases entries with
  | nil =>
    have hnone : arguments.map Prod.fst = [] :=
      List.eq_nil_iff_forall_not_mem.2 fun key hkey => List.not_mem_nil ((h.mentioned key).1 hkey)
    rw [List.map_eq_nil_iff.1 hnone]
    rfl
  | cons entry rest =>
    have hentry : entry.1 ∈ arguments.map Prod.fst := (h.mentioned _).2 List.mem_cons_self
    cases arguments with
    | nil => cases hentry
    | cons argument others =>
      rcases List.mem_cons.1 hentry with heq | hbehind
      · exact congrArg some heq.symm
      · -- No name is inserted before the first one.
        have hlt := List.rel_of_pairwise_cons h.ordered hbehind
        rw [List.map_cons, List.idxOf_cons_self] at hlt
        exact absurd hlt (Nat.not_lt_zero _)

/-- Whoever reads `arguments` that keep the `entries` gets what `ReadsBack` says. -/
theorem readsBack (h : arguments.Collects entries) : arguments.ReadsBack entries where
  toCollects := h
  members key value := by rw [mem_iff_value? h.distinct, h.last]
  length := h.length_eq
  first := h.firstKey?_eq
  unique _ h' := h.unique h'

end Collects

/-- Entries may be collected in two parts, and those of the second part inserted into the first. -/
theorem insertAll_collect (early late : List (String × Value)) :
    (collect early).insertAll (collect late) = collect (early ++ late) :=
  (Collects.collect (early ++ late)).unique
    ((Collects.collect early).append (Collects.collect late))

section Values

variable (f : Value → Value)

/-- A function `f` of all values may be applied before an insertion or after it. -/
theorem insert_mapValues (arguments : Arguments) (key : String) (value : Value) :
    Arguments.insert (arguments.map fun entry => (entry.1, f entry.2)) key (f value) =
      (arguments.insert key value).map fun entry => (entry.1, f entry.2) := by
  -- Where an entry stands is decided by the names, which do not change.
  induction arguments with
  | nil => rfl
  | cons entry rest ih =>
    simp only [List.map_cons, insert]
    split
    · rfl
    · rw [ih, List.map_cons]

/-- A function `f` of all values may be applied before a sequence of insertions or after it. -/
theorem insertAll_mapValues (arguments : Arguments) (entries : List (String × Value)) :
    Arguments.insertAll (arguments.map fun entry => (entry.1, f entry.2))
        (entries.map fun entry => (entry.1, f entry.2)) =
      (arguments.insertAll entries).map fun entry => (entry.1, f entry.2) := by
  induction entries generalizing arguments with
  | nil => rfl
  | cons entry rest ih =>
    rw [insertAll, List.map_cons, List.foldl_cons, insert_mapValues]
    exact ih (arguments.insert entry.1 entry.2)

end Values

/-- The `entries` with every reference replaced by the value that it stands for. -/
def dereferenced (outputs inputs : Variables) (entries : List (String × Value)) :
    List (String × Value) :=
  entries.map fun entry => (entry.1, entry.2.dereference (layered outputs inputs))

/-- References may be resolved before the entries are collected or after. -/
theorem resolve_collect (outputs inputs : Variables) (entries : List (String × Value)) :
    (collect entries).resolve outputs inputs = collect (dereferenced outputs inputs entries) := by
  have hmap : dereferenced outputs inputs (collect entries) =
      collect (dereferenced outputs inputs entries) :=
    (insertAll_mapValues _ [] entries).symm
  -- The names are distinct already, so to collect once more what has been resolved changes nothing.
  rw [← collect_of_nodup (Collects.collect (dereferenced outputs inputs entries)).distinct, ← hmap]
  rfl

end Arguments

namespace PendingArguments

/-- Evaluate items one at a time, `count` of them, or as many as there are. -/
def take : (count : Nat) → PendingArguments → List (String × Value) × PendingArguments
  | 0, pending => ([], pending)
  | count + 1, pending =>
    match pending.next? with
    | none => ([], pending)
    | some (entry, rest) => (entry :: (take count rest).1, (take count rest).2)

/-- Items that are evaluated one at a time are the first `count` ones; the others are left. -/
theorem take_eq (count : Nat) (pending : PendingArguments) :
    pending.take count =
      (pending.entries.take count, ⟨pending.items.drop count, pending.scope⟩) := by
  obtain ⟨items, scope⟩ := pending
  induction count generalizing items with
  | zero => rfl
  | succ count ih =>
    cases items with
    | nil => rfl
    | cons item rest =>
      rw [take]
      simp only [next?, ih rest]
      rfl

/-- The first `count` items may be evaluated one at a time and the others drained: inserted into
each other, this is what draining all items gives. -/
theorem insertAll_take_drain (count : Nat) (pending : PendingArguments) :
    (Arguments.collect (pending.take count).1).insertAll (pending.take count).2.drain =
      pending.drain := by
  rw [take_eq, drain_eq_ofItems, drain_eq_ofItems, Arguments.ofItems, Arguments.insertAll_collect,
    Arguments.ofItems, List.map_drop]
  exact congrArg Arguments.collect (List.take_append_drop count pending.entries)

end PendingArguments

namespace Arguments

/-- However arguments are collected, every name occurs once, the names are in the order of their
first insertions, every name has its last value, and that is what reading the arguments gives. Items
that are evaluated one at a time and the arguments that the others are drained to, inserted in this
order, are what all items are drained to at once. -/
theorem readsBack_collected :
    (∀ entries : List (String × Value), (collect entries).ReadsBack entries) ∧
    (∀ pending : PendingArguments, pending.drain.ReadsBack pending.entries ∧
      ofItems pending.items pending.scope = pending.drain) ∧
    (∀ (arguments : Arguments) (outputs inputs : Variables),
      (arguments.resolve outputs inputs).ReadsBack (dereferenced outputs inputs arguments)) ∧
    (∀ (entries : List (String × Value)) (outputs inputs : Variables),
      ((collect entries).resolve outputs inputs).ReadsBack
        (dereferenced outputs inputs entries)) ∧
    ∀ (pending : PendingArguments) (count : Nat),
      (pending.take count).1 = pending.entries.take count ∧
      (collect (pending.take count).1).insertAll (pending.take count).2.drain =
        pending.drain := by
  refine ⟨fun entries => (Collects.collect entries).readsBack, fun pending => ?_,
    fun arguments outputs inputs => ?_, fun entries outputs inputs => ?_, fun pending count => ?_⟩
  · rw [PendingArguments.drain_eq_ofItems]
    exact ⟨(Collects.collect pending.entries).readsBack, rfl⟩
  · exact (Collects.collect (dereferenced outputs inputs arguments)).readsBack
  · rw [resolve_collect]
    exact (Collects.collect _).readsBack
  · exact ⟨congrArg Prod.fst (pending.take_eq count), pending.insertAll_take_drain count⟩

/-- A name on both sides of a cut keeps its place and takes the later value. -/
example :
    (collect [("x", .int 1), ("y", .int 2)]).insertAll
        (collect [("z", .int 3), ("x", .int 4), ("x", .int 5)]) =
      [("x", .int 5), ("y", .int 2), ("z", .int 3)] := by decide

end Arguments

end Promptbook
