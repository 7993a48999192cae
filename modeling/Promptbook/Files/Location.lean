import Promptbook.Text.Search

/-!
# Locations

A location is written as a text with slashes. What counts of it are its parts: repeated slashes, a
slash at the end and a point in the middle mean nothing, while a point at the start is kept.
-/

namespace Promptbook

/-- A part of a location. -/
inductive LocationPart where
  /-- The start of all locations. -/
  | root
  /-- The directory at hand. -/
  | here
  /-- The directory above. -/
  | above
  /-- A name in a directory. -/
  | name (s : String)
  deriving DecidableEq, Inhabited

namespace LocationPart

/-- The place of a kind of part in the order of parts. -/
def rank : LocationPart → Nat
  | root => 0
  | here => 1
  | above => 2
  | name _ => 3

/-- Whether a part comes before another: by kind, and names by their characters. -/
def before : LocationPart → LocationPart → Bool
  | name s, name t => s < t
  | p, q => p.rank < q.rank

/-- No part `p` comes before itself. -/
theorem before_self (p : LocationPart) : p.before p = false := by
  cases p <;> simp [before, rank]

/-- The parts `p` and `q` are the same, or one comes before the other. -/
theorem before_trichotomy (p q : LocationPart) : p.before q = true ∨ p = q ∨ q.before p = true := by
  cases p with
  | name s =>
    cases q with
    | name t =>
      by_cases hst : s < t
      · simp [before, hst]
      · by_cases hts : t < s
        · simp [before, hts]
        · have heq := String.le_antisymm (String.not_lt.1 hts) (String.not_lt.1 hst)
          simp [heq]
    | _ => simp [before, rank]
  | _ => cases q <;> simp [before, rank]

/-- If `p` comes before `q` and `q` before `r`, then `p` comes before `r`. -/
theorem before_trans {p q r : LocationPart} (h : p.before q = true) (h' : q.before r = true) :
    p.before r = true := by
  cases p with
  | name s =>
    cases q with
    | name t =>
      cases r with
      | name u =>
        exact decide_eq_true (String.lt_trans (of_decide_eq_true h) (of_decide_eq_true h'))
      | _ => simp [before, rank] at h'
    | _ => simp [before, rank] at h
  | _ => cases q <;> cases r <;> simp_all [before, rank]

end LocationPart

namespace Location

/-- The texts between the slashes of `location`. -/
def pieces (location : String) : List String :=
  (Text.split ['/'] location.toList).map String.ofList

/-- The part that a piece stands for, behind the first piece. -/
def part? : String → Option LocationPart
  | "" => none
  | "." => none
  | ".." => some .above
  | s => some (.name s)

/-- The parts of `location`. -/
def parts (location : String) : List LocationPart :=
  match pieces location with
  | "" :: rest@(_ :: _) => .root :: rest.filterMap part?
  | "." :: rest => .here :: rest.filterMap part?
  | all => all.filterMap part?

/-- Whether the first list of parts comes before the second, part by part. -/
def partsBefore : List LocationPart → List LocationPart → Bool
  | _, [] => false
  | [], _ :: _ => true
  | p :: ps, q :: qs => p.before q || (p == q && partsBefore ps qs)

/-- Whether `l` and `m` write the same location. -/
def same (l m : String) : Bool :=
  parts l == parts m

/-- Whether `l` may stand before `m` in a sorted list. -/
def notAfter (l m : String) : Bool :=
  !partsBefore (parts m) (parts l)

/-- The location of `name` in `directory`. -/
def child (directory name : String) : String :=
  if directory == "" || directory.endsWith "/" then directory ++ name
  else directory ++ "/" ++ name

/-- The name at the end of `location`, if it ends in one. -/
def fileName? (location : String) : Option String :=
  match (parts location).getLast? with
  | some (.name s) => some s
  | _ => none

/-- What follows the last point of `name`, if something stands before that point. -/
def extension? (name : String) : Option String :=
  let reversed := name.toList.reverse
  match reversed.dropWhile (· != '.') with
  | '.' :: _ :: _ => some (String.ofList (reversed.takeWhile (· != '.')).reverse)
  | _ => none

/-- No list of parts comes before itself. -/
theorem partsBefore_self (ps : List LocationPart) : partsBefore ps ps = false := by
  induction ps with
  | nil => rfl
  | cons p ps ih => simp [partsBefore, p.before_self, ih]

/-- The parts `ps` and `qs` are the same, or one of the lists comes before the other. -/
theorem partsBefore_trichotomy (ps qs : List LocationPart) :
    partsBefore ps qs = true ∨ ps = qs ∨ partsBefore qs ps = true := by
  induction ps generalizing qs with
  | nil => cases qs <;> simp [partsBefore]
  | cons p ps ih =>
    cases qs with
    | nil => simp [partsBefore]
    | cons q qs =>
      rcases p.before_trichotomy q with h | rfl | h
      · simp [partsBefore, h]
      · simpa [partsBefore, p.before_self] using ih qs
      · simp [partsBefore, h]

/-- If `ps` come before `qs` and `qs` before `rs`, then `ps` come before `rs`. -/
theorem partsBefore_trans {ps qs rs : List LocationPart} (h : partsBefore ps qs = true)
    (h' : partsBefore qs rs = true) : partsBefore ps rs = true := by
  induction ps generalizing qs rs with
  | nil =>
    cases rs with
    | nil => cases qs <;> cases h'
    | cons => rfl
  | cons p ps ih =>
    cases qs with
    | nil => cases h
    | cons q qs =>
      cases rs with
      | nil => cases h'
      | cons r rs =>
        simp only [partsBefore, Bool.or_eq_true, Bool.and_eq_true, beq_iff_eq] at h h' ⊢
        rcases h with h | ⟨rfl, h⟩
        · rcases h' with h' | ⟨rfl, -⟩
          · exact .inl (LocationPart.before_trans h h')
          · exact .inl h
        · rcases h' with h' | ⟨rfl, h'⟩
          · exact .inl h'
          · exact .inr ⟨rfl, ih h h'⟩

/-- If `ps` come before `qs`, they do not come behind them. -/
theorem partsBefore_asymm {ps qs : List LocationPart} (h : partsBefore ps qs = true) :
    partsBefore qs ps = false := by
  rw [Bool.eq_false_iff]
  intro hback
  have hself := partsBefore_trans h hback
  rw [partsBefore_self] at hself
  cases hself

/-- The texts `l` and `m` write the same location exactly if they have the same parts. -/
theorem same_iff {l m : String} : same l m = true ↔ parts l = parts m :=
  beq_iff_eq

/-- It does not matter how a location is written. -/
theorem same_congr {l m : String} (h : same l m = true) (n : String) : same n l = same n m := by
  rw [same, same, same_iff.1 h]

/-- A location `l` may stand before `m` exactly if it comes before it or is the same. -/
theorem notAfter_iff {l m : String} :
    notAfter l m = true ↔ partsBefore (parts l) (parts m) = true ∨ parts l = parts m := by
  rw [notAfter, Bool.not_eq_true']
  rcases partsBefore_trichotomy (parts l) (parts m) with h | h | h
  · simp [partsBefore_asymm h, h]
  · simp [partsBefore_self, h]
  · have hne : parts l ≠ parts m := by
      intro heq
      rw [heq, partsBefore_self] at h
      cases h
    simp [partsBefore_asymm h, h, hne]

/-- In a sorted list the first location may stand before the third. -/
theorem notAfter_trans {l m n : String} (h : notAfter l m = true) (h' : notAfter m n = true) :
    notAfter l n = true := by
  rw [notAfter_iff] at h h' ⊢
  rcases h with h | h
  · rcases h' with h' | h'
    · exact .inl (partsBefore_trans h h')
    · exact .inl (h' ▸ h)
  · rw [h]
    exact h'

/-- Of two locations one may stand before the other. -/
theorem notAfter_total (l m : String) : (notAfter l m || notAfter m l) = true := by
  rw [Bool.or_eq_true, notAfter_iff, notAfter_iff]
  rcases partsBefore_trichotomy (parts l) (parts m) with h | h | h
  · exact .inl (.inl h)
  · exact .inl (.inr h)
  · exact .inr (.inl h)

end Location

end Promptbook
