/-!
# Finding, Splitting and Replacing

Occurrences of one text in another, read from left to right without overlap. An empty pattern
occurs before each character and at the end.
-/

namespace Promptbook.Text

/-- What follows `pattern` at the start of the text, if the text starts with it. -/
def restAfter? : (pattern s : List Char) → Option (List Char)
  | [], s => some s
  | _ :: _, [] => none
  | p :: pattern, c :: s => if p == c then restAfter? pattern s else none

/-- Taking `pattern` off the start of `s` leaves `rest` exactly if `s` is the pattern and then
`rest`. -/
theorem restAfter?_eq_some {pattern s rest : List Char} :
    restAfter? pattern s = some rest ↔ s = pattern ++ rest := by
  induction pattern generalizing s with
  | nil => simp [restAfter?]
  | cons p pattern ih =>
    cases s with
    | nil => simp [restAfter?]
    | cons c s =>
      by_cases h : p = c
      · simp [restAfter?, h, ih]
      · have h' : ¬ c = p := fun e => h e.symm
        simp [restAfter?, h, h']

/-- The text before and after the first occurrence of `pattern`. -/
def breakAt? (pattern : List Char) (s : List Char) : Option (List Char × List Char) :=
  match restAfter? pattern s with
  | some rest => some ([], rest)
  | none => match s with
    | [] => none
    | c :: s => (breakAt? pattern s).map fun parts => (c :: parts.1, parts.2)

/-- If `s` breaks at `pattern`, the two parts with the pattern between them are `s`. -/
theorem eq_of_breakAt?_eq_some {pattern s before after : List Char}
    (h : breakAt? pattern s = some (before, after)) : s = before ++ pattern ++ after := by
  -- By the recursion of `breakAt?`: the pattern stands here, or behind the first character.
  induction s generalizing before after with
  | nil =>
    rw [breakAt?] at h
    cases hp : restAfter? pattern [] with
    | none => simp [hp] at h
    | some rest =>
      simp only [hp, Option.some.injEq, Prod.mk.injEq] at h
      obtain ⟨rfl, rfl⟩ := h
      simpa using restAfter?_eq_some.1 hp
  | cons c s ih =>
    rw [breakAt?] at h
    cases hp : restAfter? pattern (c :: s) with
    | some rest =>
      simp only [hp, Option.some.injEq, Prod.mk.injEq] at h
      obtain ⟨rfl, rfl⟩ := h
      simpa using restAfter?_eq_some.1 hp
    | none =>
      simp only [hp, Option.map_eq_some_iff, Prod.mk.injEq] at h
      obtain ⟨parts, hs, rfl, rfl⟩ := h
      simp [ih hs]

/-- Breaking at `c` finds its first occurrence. -/
theorem breakAt?_singleton {c : Char} {s before after : List Char} :
    breakAt? [c] s = some (before, after) ↔ s = before ++ c :: after ∧ c ∉ before := by
  induction s generalizing before after with
  | nil => simp [breakAt?, restAfter?]
  | cons d s ih =>
    rw [breakAt?]
    by_cases h : c = d
    · subst h
      cases before with
      | nil => simp [restAfter?]
      | cons e before => simpa [restAfter?] using fun he _ hne => absurd he hne
    · cases before with
      | nil => simp [restAfter?, h, Ne.symm h]
      | cons e before =>
        simp only [restAfter?, beq_iff_eq, h, if_false, Option.map_eq_some_iff, Prod.exists, ih,
          List.cons_append, List.cons.injEq, List.mem_cons, not_or]
        constructor
        · rintro ⟨_, _, ⟨rfl, hc⟩, ⟨⟩⟩
          exact ⟨⟨rfl, rfl⟩, h, hc⟩
        · rintro ⟨⟨rfl, rfl⟩, -, hc⟩
          exact ⟨before, after, ⟨rfl, hc⟩, rfl⟩

/-- Whether `pattern` occurs in the text. -/
def occursIn (pattern s : List Char) : Bool :=
  (breakAt? pattern s).isSome

/-- The pieces of `s` between the occurrences of `pattern`, which is not empty. -/
def pieces (pattern : List Char) (s : List Char) : List (List Char) :=
  match _found : breakAt? pattern s with
  | none => [s]
  | some (before, after) =>
    if _empty : pattern = [] then [s]
    else before :: pieces pattern after
termination_by s.length
decreasing_by
  have := eq_of_breakAt?_eq_some _found
  have : 0 < pattern.length := List.length_pos_iff.2 _empty
  simp_all only [List.length_append]
  omega

/-- The pieces between the occurrences of `pattern`; an empty pattern cuts at every place, both
ends included. -/
def split (pattern s : List Char) : List (List Char) :=
  if pattern.isEmpty then [] :: s.map (fun c => [c]) ++ [[]] else pieces pattern s

/-- The text with every occurrence of `pattern` replaced. -/
def replace (pattern replacement s : List Char) : List Char :=
  replacement.intercalate (split pattern s)

/-- The text with the first occurrence of `pattern` replaced. -/
def replaceFirst (pattern replacement s : List Char) : List Char :=
  match breakAt? pattern s with
  | some (before, after) => before ++ replacement ++ after
  | none => s

/-- The lines of a text: what stands between its line feeds. -/
def lines : List Char → List (List Char)
  | [] => [[]]
  | c :: s =>
    if c == '\n' then [] :: lines s
    else match lines s with
      | line :: rest => (c :: line) :: rest
      | [] => [[c]]

/-- Every text has a first line. -/
theorem lines_ne_nil (s : List Char) : lines s ≠ [] := by
  cases s with
  | nil => simp [lines]
  | cons c s =>
    simp only [lines]
    split
    · simp
    · split <;> simp

/-- The lines of a text with a line break in it are those of `s` before and those of `t` behind
it. -/
theorem lines_append (s t : List Char) : lines (s ++ '\n' :: t) = lines s ++ lines t := by
  induction s with
  | nil => rfl
  | cons c s ih =>
    simp only [List.cons_append, lines, ih]
    split
    · rfl
    · cases h : lines s with
      | nil => exact absurd h (lines_ne_nil s)
      | cons line rest => rfl

/-- The lines of `s` with line breaks between them are `s`. -/
theorem intercalate_lines (s : List Char) : ['\n'].intercalate (lines s) = s := by
  induction s with
  | nil => rfl
  | cons c s ih =>
    simp only [lines]
    cases h : lines s with
    | nil => exact absurd h (lines_ne_nil s)
    | cons line rest =>
      rw [h] at ih
      split
      · rename_i hc
        have hc := eq_of_beq hc
        subst hc
        rw [← ih]
        simp [List.intercalate, List.intersperse]
      · rw [← ih]
        cases rest <;> simp [List.intercalate, List.intersperse]

end Promptbook.Text
