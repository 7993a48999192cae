import Promptbook.Variable.Path

/-!
# Arguments of Directives

What a template writes as the argument of a directive, and the arguments that the directive
receives. Received arguments are entries in the order of their first mention; a name that is
written again keeps its position and takes the new value. Written arguments can be evaluated one at
a time, or drained all at once.
-/

namespace Promptbook

/-- The right-hand side of an argument. -/
inductive ArgumentSource where
  /-- A value that is written out. -/
  | literal (v : Value)
  /-- A variable path, looked up when the directive is called. -/
  | path (p : Path)
  /-- Nothing: a bare name. -/
  | absent
  deriving DecidableEq, Inhabited

/-- An argument as a template writes it. -/
structure ArgumentItem where
  /-- The name of the argument. -/
  key : String
  /-- What stands for its value. -/
  source : ArgumentSource
  deriving DecidableEq, Inhabited

namespace ArgumentItem

/-- The value of `item` in `scope`. Bare names and paths that lead nowhere are null. -/
def evaluate (item : ArgumentItem) (scope : Path → Option Value) : Value :=
  match item.source with
  | .literal v => v
  | .path p => (scope p).getD .null
  | .absent => .null

/-- The item among `items` that counts for `key`: the last one with this name. -/
def last? (items : List ArgumentItem) (key : String) : Option ArgumentItem :=
  items.reverse.find? fun item => item.key = key

end ArgumentItem

/-- The arguments that a directive receives, in the order of their first mention. -/
abbrev Arguments := List (String × Value)

namespace Arguments

/-- The value of the argument `key`. -/
def value? : Arguments → String → Option Value
  | [], _ => none
  | entry :: rest, key => if entry.1 = key then some entry.2 else value? rest key

/-- The name of the first argument. -/
def firstKey? (arguments : Arguments) : Option String :=
  arguments.head?.map Prod.fst

/-- The arguments with `value` under `key`: in place of its former value, or at the end. -/
def insert : Arguments → String → Value → Arguments
  | [], key, value => [(key, value)]
  | entry :: rest, key, value =>
    if entry.1 = key then (key, value) :: rest else entry :: insert rest key value

/-- The arguments after the insertion of `entries`, one after the other. -/
def insertAll (arguments : Arguments) (entries : List (String × Value)) : Arguments :=
  entries.foldl (fun all entry => all.insert entry.1 entry.2) arguments

/-- The arguments that `entries` amount to. -/
def collect (entries : List (String × Value)) : Arguments :=
  insertAll [] entries

/-- The arguments that the written `items` amount to in `scope`. -/
def ofItems (items : List ArgumentItem) (scope : Path → Option Value) : Arguments :=
  collect (items.map fun item => (item.key, item.evaluate scope))

/-- The arguments as a JSON value: a list of pairs. -/
def toPairs (arguments : Arguments) : Value :=
  .array (arguments.map fun entry => .array [.string entry.1, entry.2])

/-- Whether a directive receives like arguments: the same names in the same order, and values that
are alike. -/
def alike (arguments other : Arguments) : Bool :=
  Value.alikeMembers arguments other

/-- Every sequence of arguments is alike to itself. -/
theorem alike_refl (arguments : Arguments) : arguments.alike arguments = true :=
  Value.alikeMembers_refl arguments

/-- After an insertion, `key` has the new `value` and every `other` name the old one. -/
theorem value?_insert (arguments : Arguments) (key : String) (value : Value) (other : String) :
    (arguments.insert key value).value? other =
      if key = other then some value else arguments.value? other := by
  induction arguments with
  | nil => simp [insert, value?]
  | cons entry rest ih =>
    simp only [insert]
    by_cases h : entry.1 = key
    · subst h
      by_cases h' : entry.1 = other <;> simp [value?, h']
    · simp only [h, if_false, value?, ih]
      by_cases h' : entry.1 = other
      · have : ¬ key = other := fun e => h (h'.trans e.symm)
        simp [h', this]
      · simp [h']

/-- An insertion adds `key` at the end of the names, or nothing if it is there already. -/
theorem keys_insert (arguments : Arguments) (key : String) (value : Value) :
    (arguments.insert key value).map Prod.fst =
      if key ∈ arguments.map Prod.fst then arguments.map Prod.fst
      else arguments.map Prod.fst ++ [key] := by
  induction arguments with
  | nil => simp [insert]
  | cons entry rest ih =>
    simp only [insert]
    by_cases h : entry.1 = key
    · simp [h]
    · have h' : ¬ key = entry.1 := fun e => h e.symm
      simp only [h, if_false, List.map_cons, ih, List.mem_cons, h', false_or]
      split <;> simp

/-- A `key` that is not there yet is inserted at the end. -/
theorem insert_of_not_mem {arguments : Arguments} {key : String}
    (h : key ∉ arguments.map Prod.fst) (value : Value) :
    arguments.insert key value = arguments ++ [(key, value)] := by
  induction arguments with
  | nil => rfl
  | cons entry rest ih =>
    simp only [List.map_cons, List.mem_cons, not_or] at h
    simp only [insert, if_neg fun heq : entry.1 = key => h.1 heq.symm, ih h.2, List.cons_append]

/-- After the insertion of `entries`, `key` has the value that was inserted last under it, if there
is one, and otherwise the old one. -/
theorem value?_insertAll (arguments : Arguments) (entries : List (String × Value)) (key : String) :
    (arguments.insertAll entries).value? key =
      ((entries.reverse.find? fun entry => entry.1 = key).map Prod.snd).or
        (arguments.value? key) := by
  induction entries generalizing arguments with
  | nil => rfl
  | cons entry rest ih =>
    have hrest := ih (arguments.insert entry.1 entry.2)
    rw [value?_insert] at hrest
    rw [insertAll, List.foldl_cons, List.reverse_cons, List.find?_append, Option.map_or,
      Option.or_assoc]
    refine hrest.trans (congrArg _ ?_)
    by_cases h : entry.1 = key <;> simp [h]

/-- The value of the argument `key` is that of the last item with this name. -/
theorem value?_ofItems (items : List ArgumentItem) (scope : Path → Option Value) (key : String) :
    (ofItems items scope).value? key =
      (ArgumentItem.last? items key).map fun item => item.evaluate scope := by
  rw [ofItems, collect, value?_insertAll, ← List.map_reverse, List.find?_map, Option.map_map]
  exact Option.or_none

/-- Insertions keep the names apart. -/
theorem nodup_keys_insertAll {arguments : Arguments} (h : (arguments.map Prod.fst).Nodup)
    (entries : List (String × Value)) : ((arguments.insertAll entries).map Prod.fst).Nodup := by
  induction entries generalizing arguments with
  | nil => exact h
  | cons entry rest ih =>
    refine ih ?_
    rw [keys_insert]
    split
    · exact h
    · next hnew =>
      refine List.nodup_append.2 ⟨h, by simp, fun key hkey other hother heq => ?_⟩
      rw [List.mem_singleton.1 hother] at heq
      exact hnew (heq ▸ hkey)

/-- Every name occurs once among the arguments that `items` amount to. -/
theorem nodup_keys_ofItems (items : List ArgumentItem) (scope : Path → Option Value) :
    ((ofItems items scope).map Prod.fst).Nodup :=
  @nodup_keys_insertAll [] List.nodup_nil _

/-- If the names of `entries` differ, the entries amount to themselves. -/
theorem collect_of_nodup {entries : List (String × Value)} (h : (entries.map Prod.fst).Nodup) :
    collect entries = entries := by
  -- Before each entry stand others with other names.
  have hall : ∀ (early late : List (String × Value)), ((early ++ late).map Prod.fst).Nodup →
      insertAll early late = early ++ late := by
    intro early late hnodup
    induction late generalizing early with
    | nil => rw [List.append_nil]; rfl
    | cons entry late ih =>
      have hnew : entry.1 ∉ early.map Prod.fst := by
        intro hmem
        rw [List.map_append, List.nodup_append] at hnodup
        exact hnodup.2.2 _ hmem _ (by simp) rfl
      have hnext : early ++ entry :: late = early ++ [entry] ++ late := by simp
      rw [hnext] at hnodup ⊢
      rw [← ih _ hnodup, insertAll, List.foldl_cons, insert_of_not_mem hnew]
      rfl
  exact hall [] entries h

/-- If `f` changes the values alone, every `key` has the changed value. -/
theorem value?_mapValues (arguments : Arguments) (f : Value → Value) (key : String) :
    Arguments.value? (arguments.map fun entry => (entry.1, f entry.2)) key =
      (arguments.value? key).map f := by
  induction arguments with
  | nil => rfl
  | cons entry rest ih =>
    simp only [List.map_cons, value?, ih]
    split <;> rfl

end Arguments

/-- Written arguments that are still to be evaluated. -/
structure PendingArguments where
  /-- The items that are left. -/
  items : List ArgumentItem
  /-- Where their paths are looked up. -/
  scope : Path → Option Value

namespace PendingArguments

/-- What the items that are left amount to, one by one. -/
def entries (pending : PendingArguments) : List (String × Value) :=
  pending.items.map fun item => (item.key, item.evaluate pending.scope)

/-- Evaluate the next item. -/
def next? (pending : PendingArguments) : Option ((String × Value) × PendingArguments) :=
  match pending.items with
  | [] => none
  | item :: rest => some ((item.key, item.evaluate pending.scope), { pending with items := rest })

/-- Evaluating an item leaves fewer of them. -/
theorem length_lt_of_next? {pending rest : PendingArguments} {entry : String × Value}
    (h : pending.next? = some (entry, rest)) : rest.items.length < pending.items.length := by
  unfold next? at h
  split at h
  · cases h
  · next hitems =>
    cases h
    rw [hitems]
    exact Nat.lt_succ_self _

/-- Evaluate the items that are left, and insert each into `arguments`. -/
def drainInto (pending : PendingArguments) (arguments : Arguments) : Arguments :=
  match _next : pending.next? with
  | none => arguments
  | some (entry, rest) => rest.drainInto (arguments.insert entry.1 entry.2)
termination_by pending.items.length
decreasing_by exact length_lt_of_next? _next

/-- Evaluate all items that are left. -/
def drain (pending : PendingArguments) : Arguments :=
  pending.drainInto []

/-- Draining inserts what the items amount to. -/
theorem drainInto_eq (pending : PendingArguments) (arguments : Arguments) :
    pending.drainInto arguments = arguments.insertAll pending.entries := by
  obtain ⟨items, scope⟩ := pending
  induction items generalizing arguments with
  | nil =>
    rw [drainInto]
    rfl
  | cons item rest ih =>
    rw [drainInto]
    exact ih _

/-- Draining gives the arguments that the items amount to. -/
theorem drain_eq_ofItems (pending : PendingArguments) :
    pending.drain = .ofItems pending.items pending.scope :=
  pending.drainInto_eq []

end PendingArguments

end Promptbook
