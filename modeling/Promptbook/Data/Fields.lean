/-!
# Named Values

A finite map from names to values, kept as a list of entries in ascending order of the names. The
order is the one in which every output lists its members. The laws say what a look-up finds after
each operation, and that no operation disturbs the order.
-/

namespace Promptbook

universe u
variable {α : Type u}

/-- Entries `(name, value)`; the operations keep them in ascending order of the names. -/
abbrev Fields (α : Type u) := List (String × α)

namespace Fields

/-- The value stored under `name`. -/
def value? : Fields α → String → Option α
  | [], _ => none
  | entry :: rest, name => if entry.1 = name then some entry.2 else value? rest name

/-- Whether `name` has a value. -/
def has (fields : Fields α) (name : String) : Bool :=
  (fields.value? name).isSome

/-- The fields with `value` under `name`, in place of the value stored there before. -/
def put : Fields α → String → α → Fields α
  | [], name, value => [(name, value)]
  | entry :: rest, name, value =>
    if name < entry.1 then (name, value) :: entry :: rest
    else if entry.1 = name then (name, value) :: rest
    else entry :: put rest name value

/-- The fields without the value of `name`. -/
def without (fields : Fields α) (name : String) : Fields α :=
  fields.filter fun entry => entry.1 ≠ name

/-- The fields overwritten, name by name, with those of `upper`. -/
def overlay (lower upper : Fields α) : Fields α :=
  upper.foldl (fun fields entry => fields.put entry.1 entry.2) lower

/-- The fields collected from `entries` in any order; the last value of a name counts. -/
def collect (entries : List (String × α)) : Fields α :=
  overlay [] entries

/-- The names that have a value, in ascending order. -/
def names (fields : Fields α) : List String :=
  fields.map Prod.fst

/-- The names ascend, so each occurs once. -/
def Sorted (fields : Fields α) : Prop :=
  fields.names.Pairwise (· < ·)

@[simp] theorem value?_nil (name : String) : value? ([] : Fields α) name = none := rfl

@[simp] theorem value?_cons (entry : String × α) (rest : Fields α) (name : String) :
    value? (entry :: rest) name = if entry.1 = name then some entry.2 else value? rest name := rfl

/-- Every value is that of an entry. -/
theorem mem_of_value? {fields : Fields α} {name : String} {value : α}
    (h : fields.value? name = some value) : (name, value) ∈ fields := by
  induction fields with
  | nil => cases h
  | cons entry rest ih =>
    rw [value?_cons] at h
    split at h
    · next hname =>
      cases h
      subst hname
      exact List.mem_cons_self
    · exact List.mem_cons_of_mem _ (ih h)

/-- After a write, `name` has the new `value` and every `other` name the old one. -/
theorem value?_put (fields : Fields α) (name : String) (value : α) (other : String) :
    (fields.put name value).value? other =
      if name = other then some value else fields.value? other := by
  induction fields with
  | nil => simp [put]
  | cons entry rest ih =>
    simp only [put]
    split
    · simp
    · split
      · rename_i h
        subst h
        by_cases h' : entry.1 = other <;> simp [h']
      · rename_i h
        by_cases h' : entry.1 = other
        · have : ¬ name = other := fun e => h (h'.trans e.symm)
          simp [h', this]
        · simp [h', ih]

/-- After a removal, `name` has no value and every `other` name the old one. -/
theorem value?_without (fields : Fields α) (name other : String) :
    (fields.without name).value? other = if name = other then none else fields.value? other := by
  induction fields with
  | nil => simp [without]
  | cons entry rest ih =>
    simp only [without] at ih ⊢
    by_cases h : entry.1 = name
    · subst h
      by_cases h' : entry.1 = other
      · simp_all
      · simp_all
    · by_cases h' : entry.1 = other
      · have : ¬ name = other := fun e => h (h'.trans e.symm)
        simp_all
      · simp_all

/-- Under `name`, fields overwritten with `upper` have the value of `upper`, if it has one, and
otherwise the value of `lower`. -/
theorem value?_overlay (lower upper : Fields α) (name : String) :
    (lower.overlay upper).value? name = ((collect upper).value? name).or (lower.value? name) := by
  induction upper generalizing lower with
  | nil => rfl
  | cons entry rest ih =>
    -- The first entry is written before the others, over `lower` as over no fields at all.
    have hlower := ih (lower.put entry.1 entry.2)
    have hnil := ih (put [] entry.1 entry.2)
    show (overlay (lower.put entry.1 entry.2) rest).value? name =
      ((overlay (put [] entry.1 entry.2) rest).value? name).or (lower.value? name)
    rw [hlower, hnil, value?_put, value?_put]
    by_cases h : entry.1 = name
    · rw [if_pos h, if_pos h]
      cases (collect rest).value? name <;> rfl
    · rw [if_neg h, if_neg h]
      cases (collect rest).value? name <;> rfl

/-- Under `name`, collected fields have the value of a later entry, if there is one, or else of the
first. -/
theorem value?_collect_cons (entry : String × α) (rest : List (String × α)) (name : String) :
    (collect (entry :: rest)).value? name =
      ((collect rest).value? name).or (if entry.1 = name then some entry.2 else none) := by
  have hrest := value?_overlay (put [] entry.1 entry.2) rest name
  rw [value?_put, value?_nil] at hrest
  exact hrest

/-- The names that have a value in collected fields are those of `entries`. -/
theorem has_collect (entries : List (String × α)) (name : String) :
    (collect entries).has name = has entries name := by
  induction entries with
  | nil => rfl
  | cons entry rest ih =>
    rw [has] at ih
    rw [has, value?_collect_cons, Option.isSome_or, ih, has, has, value?_cons]
    split
    · exact Bool.or_true _
    · exact Bool.or_false _

/-- Fields overwritten with `upper` have the names of both. -/
theorem has_overlay (lower upper : Fields α) (name : String) :
    (lower.overlay upper).has name = (upper.has name || lower.has name) := by
  rw [has, value?_overlay, Option.isSome_or, ← has, has_collect]
  rfl

/-- Every `value` in collected fields is that of an entry. -/
theorem mem_of_value?_collect {entries : List (String × α)} {name : String} {value : α}
    (h : (collect entries).value? name = some value) : (name, value) ∈ entries := by
  induction entries with
  | nil => cases h
  | cons entry rest ih =>
    rw [value?_collect_cons, Option.or_eq_some_iff] at h
    rcases h with h | ⟨-, h⟩
    · exact List.mem_cons_of_mem _ (ih h)
    · by_cases hname : entry.1 = name
      · rw [if_pos hname] at h
        cases h
        rw [← hname]
        exact List.mem_cons_self
      · rw [if_neg hname] at h
        cases h

/-- Without entries there is nothing out of order. -/
theorem sorted_nil : Sorted ([] : Fields α) :=
  .nil

/-- The entries are in order exactly if the first name comes before the others and these are in
order. -/
theorem sorted_cons {entry : String × α} {rest : Fields α} :
    Sorted (entry :: rest) ↔ (∀ name ∈ rest.names, entry.1 < name) ∧ rest.Sorted :=
  List.pairwise_cons

/-- A `name` has no value exactly if it is not among the names. -/
theorem value?_eq_none {fields : Fields α} {name : String} :
    fields.value? name = none ↔ name ∉ fields.names := by
  induction fields with
  | nil => simp [names]
  | cons entry rest ih =>
    by_cases h : entry.1 = name
    · simp [names, h]
    · have h' : ¬ name = entry.1 := fun e => h e.symm
      simpa [names, h, h'] using ih

/-- After a write, the names are those before and `name`. -/
theorem mem_names_put {fields : Fields α} {name other : String} {value : α} :
    other ∈ (fields.put name value).names ↔ name = other ∨ other ∈ fields.names := by
  rw [← Decidable.not_iff_not, ← value?_eq_none, value?_put]
  by_cases h : name = other <;> simp [h, value?_eq_none]

/-- A write does not disturb the order. -/
theorem Sorted.put {fields : Fields α} (h : fields.Sorted) (name : String) (value : α) :
    (fields.put name value).Sorted := by
  induction fields with
  | nil => exact List.pairwise_singleton _ _
  | cons entry rest ih =>
    obtain ⟨hfirst, hrest⟩ := sorted_cons.1 h
    unfold Fields.put
    split
    · rename_i hbefore
      refine sorted_cons.2 ⟨fun other hother => ?_, h⟩
      rcases List.mem_cons.1 hother with rfl | hother
      · exact hbefore
      · exact String.lt_trans hbefore (hfirst other hother)
    · split
      · rename_i hsame
        exact sorted_cons.2 ⟨hsame ▸ hfirst, hrest⟩
      · rename_i hbefore hsame
        -- Neither before the first name nor the same, the written name is behind it.
        have hbehind : entry.1 < name := Decidable.byContradiction fun hnot =>
          hsame (String.le_antisymm (String.not_lt.1 hbefore) (String.not_lt.1 hnot))
        refine sorted_cons.2 ⟨fun other hother => ?_, ih hrest⟩
        rcases mem_names_put.1 hother with rfl | hother
        · exact hbehind
        · exact hfirst other hother

/-- Overwriting does not disturb the order. -/
theorem Sorted.overlay {lower : Fields α} (h : lower.Sorted) (upper : Fields α) :
    (lower.overlay upper).Sorted := by
  induction upper generalizing lower with
  | nil => exact h
  | cons entry rest ih => exact ih (h.put entry.1 entry.2)

/-- A removal does not disturb the order. -/
theorem Sorted.without {fields : Fields α} (h : fields.Sorted) (name : String) :
    (fields.without name).Sorted :=
  List.Pairwise.sublist (List.filter_sublist.map Prod.fst) h

/-- A change `f` of the values alone changes the value of each name. -/
theorem value?_mapValues {β : Type u} (fields : Fields α) (f : α → β) (name : String) :
    value? (fields.map fun entry => (entry.1, f entry.2)) name = (fields.value? name).map f := by
  induction fields with
  | nil => rfl
  | cons entry rest ih =>
    simp only [List.map_cons, value?_cons, ih]
    split <;> rfl

/-- A change of the values alone leaves the names. -/
theorem has_mapValues {β : Type u} (fields : Fields α) (f : α → β) (name : String) :
    has (fields.map fun entry => (entry.1, f entry.2)) name = fields.has name := by
  rw [has, value?_mapValues, Option.isSome_map, has]

/-- A change of the values alone does not disturb the order. -/
theorem Sorted.mapValues {β : Type u} {fields : Fields α} (h : fields.Sorted) (f : α → β) :
    Sorted (fields.map fun entry => (entry.1, f entry.2)) := by
  rw [Sorted, names, List.map_map]
  exact h

/-- A `name` that comes before the first one has no value. -/
theorem Sorted.value?_of_lt {entry : String × α} {rest : Fields α}
    (h : Sorted (entry :: rest)) {name : String} (hlt : name < entry.1) :
    Fields.value? (entry :: rest) name = none := by
  rw [value?_eq_none]
  intro hmem
  rcases List.mem_cons.1 hmem with rfl | hmem
  · exact String.lt_irrefl _ hlt
  · exact String.lt_asymm hlt ((sorted_cons.1 h).1 name hmem)

/-- The first name has no value among the others. -/
theorem Sorted.value?_rest {entry : String × α} {rest : Fields α} (h : Sorted (entry :: rest)) :
    Fields.value? rest entry.1 = none :=
  value?_eq_none.2 fun hmem => String.lt_irrefl _ ((sorted_cons.1 h).1 _ hmem)

/-- Sorted fields with the same values are the same. -/
theorem Sorted.ext {fields fields' : Fields α} (h : fields.Sorted) (h' : fields'.Sorted)
    (hvalue : ∀ name, fields.value? name = fields'.value? name) : fields = fields' := by
  induction fields generalizing fields' with
  | nil =>
    cases fields' with
    | nil => rfl
    | cons entry' rest' => simpa using hvalue entry'.1
  | cons entry rest ih =>
    cases fields' with
    | nil => simpa using hvalue entry.1
    | cons entry' rest' =>
      -- Neither of the first names comes before the other, for it would have a value on one side.
      have hname : entry.1 = entry'.1 := by
        refine String.le_antisymm (String.not_lt.1 fun hlt => ?_) (String.not_lt.1 fun hlt => ?_)
        · simpa [h.value?_of_lt hlt] using hvalue entry'.1
        · simpa [h'.value?_of_lt hlt] using hvalue entry.1
      have hentry : entry = entry' := by
        refine Prod.ext hname ?_
        simpa [hname] using hvalue entry.1
      subst hentry
      refine congrArg (entry :: ·) (ih (sorted_cons.1 h).2 (sorted_cons.1 h').2 fun name => ?_)
      by_cases hother : entry.1 = name
      · rw [← hother, h.value?_rest, h'.value?_rest]
      · simpa [hother] using hvalue name

/-- Sorted fields are collected from their own entries. -/
theorem Sorted.collect_eq {fields : Fields α} (h : fields.Sorted) : collect fields = fields := by
  refine Sorted.ext (sorted_nil.overlay fields) h fun name => ?_
  show (collect fields).value? name = _
  induction fields with
  | nil => rfl
  | cons entry rest ih =>
    rw [value?_collect_cons, ih (sorted_cons.1 h).2, value?_cons]
    by_cases hname : entry.1 = name
    · rw [if_pos hname, if_pos hname, ← hname, h.value?_rest]
      rfl
    · rw [if_neg hname, if_neg hname]
      exact Option.or_none

/-- Fields that are laid over others one after the other keep the order. -/
theorem Sorted.foldl_overlay {lower : Fields α} (h : lower.Sorted) (uppers : List (Fields α)) :
    (uppers.foldl Fields.overlay lower).Sorted := by
  induction uppers generalizing lower with
  | nil => exact h
  | cons upper uppers ih => exact ih (h.overlay upper)

/-- Where `uppers` are laid over `lower` one after the other, `name` has the value that it has in
these, if it has one there. -/
theorem value?_foldl_overlay (lower : Fields α) (uppers : List (Fields α)) (name : String) :
    (uppers.foldl overlay lower).value? name =
      ((uppers.foldl overlay []).value? name).or (lower.value? name) := by
  induction uppers generalizing lower with
  | nil => rfl
  | cons upper uppers ih =>
    rw [List.foldl_cons, List.foldl_cons, ih (lower.overlay upper), ih (overlay [] upper),
      value?_overlay lower, Option.or_assoc]
    rfl

/-- Fields that are laid over others one after the other may be put together before. -/
theorem Sorted.foldl_overlay_eq {lower : Fields α} (h : lower.Sorted)
    (uppers : List (Fields α)) :
    uppers.foldl Fields.overlay lower = lower.overlay (uppers.foldl Fields.overlay []) := by
  have hupper := sorted_nil.foldl_overlay uppers
  refine Sorted.ext (h.foldl_overlay uppers) (h.overlay _) fun name => ?_
  rw [value?_foldl_overlay, value?_overlay, hupper.collect_eq]

end Fields

end Promptbook
