import Mathlib.Data.List.Forall2
import Promptbook.Directive.Reference
import Promptbook.Proofs.Text.Trimming

/-!
# What Arguments Stand For

An argument that is a variable path in double braces stands for the value at this path, and every
other argument for itself. The test for references is about the text that stands between the braces,
not about the path, however. So a text between braces that is no path is lost if it is on one line,
and a path with a line feed in a quoted member is not looked up.

## Main definitions

* `IsTaken`: a text is taken for a reference when it stands in double braces.
* `StandsFor`: what the value of an argument stands for, rule by rule.

## Main results

* `referenced?_eq_some`: which texts are taken for references.
* `Value.dereference_eq_iff`: every value stands for exactly one value.
* `Arguments.resolve_standsFor`: resolving replaces each value by the one that it stands for.
* `Arguments.resolve_joined`: two references with a text between them are lost.
-/

namespace Promptbook

/-- The text `inner` in double braces. -/
def braced (inner : List Char) : String :=
  String.ofList ('\x7b' :: '\x7b' :: (inner ++ ['\x7d', '\x7d']))

/-- The text `inner` is taken for a reference when it stands in double braces. -/
structure IsTaken (inner : List Char) : Prop where
  /-- There is something in `inner`, and not only line feeds. -/
  other : ∃ c ∈ inner, c ≠ '\n'
  /-- Line feeds are only in the white space around `inner`. -/
  single : '\n' ∉ Text.trimSpace inner

section Texts

variable {inner : List Char} {text core : String}

/-- In double braces, `inner` is taken for a reference to `core` exactly if it is one that is taken,
and `core` is what is left of it without the white space around. -/
theorem referenced?_braced :
    referenced? (braced inner) = some core ↔
      IsTaken inner ∧ core = String.ofList (Text.trimSpace inner) := by
  have htest : referenced? (braced inner) =
      if (Text.trimSpace inner).isEmpty then if inner.any (· != '\n') then some "" else none
      else if (Text.trimSpace inner).contains '\n' then none
      else some (String.ofList (Text.trimSpace inner)) := by
    simp [referenced?, braced]
  rw [htest]
  cases hcore : Text.trimSpace inner with
  | nil =>
    -- White space alone is taken for a reference too, to nothing, unless it is only line feeds.
    have hother : inner.any (· != '\n') = true ↔ IsTaken inner := by
      refine ⟨fun hany => ⟨?_, by simp [hcore]⟩, fun ⟨⟨c, hc, hne⟩, _⟩ => ?_⟩
      · simpa using hany
      · exact List.any_eq_true.2 ⟨c, hc, bne_iff_ne.2 hne⟩
    rw [← hother]
    cases inner.any (· != '\n') <;> simp [eq_comm]
  | cons c rest =>
    have hsingle : (c :: rest).contains '\n' = false ↔ IsTaken inner := by
      rw [← hcore, List.contains_eq_mem, decide_eq_false_iff_not]
      refine ⟨fun hsingle => ⟨⟨c, Text.mem_of_mem_trimSpace (by simp [hcore]), ?_⟩, hsingle⟩,
        IsTaken.single⟩
      rintro rfl
      exact hsingle (by simp [hcore])
    rw [← hsingle]
    cases (c :: rest).contains '\n' <;> simp [eq_comm]

/-- Only texts in double braces are taken for references. -/
theorem exists_braced_of_referenced? (h : referenced? text = some core) :
    ∃ inner, text = braced inner := by
  unfold referenced? at h
  split at h
  · rename_i s htext
    split at h
    · rename_i backwards hs
      have hs' : s = backwards.reverse ++ ['\x7d', '\x7d'] := by
        rw [List.reverse_eq_iff] at hs
        simpa using hs
      refine ⟨backwards.reverse, ?_⟩
      rw [braced, ← hs', ← htext, String.ofList_toList]
    · cases h
  · cases h

/-- A `text` is taken for a reference to `core` exactly if it stands in double braces and the text
between them is taken for one. -/
theorem referenced?_eq_some :
    referenced? text = some core ↔
      ∃ inner, text = braced inner ∧ IsTaken inner ∧
        core = String.ofList (Text.trimSpace inner) := by
  constructor
  · intro h
    obtain ⟨inner, rfl⟩ := exists_braced_of_referenced? h
    exact ⟨inner, rfl, referenced?_braced.1 h⟩
  · rintro ⟨inner, rfl, h⟩
    exact referenced?_braced.2 h

/-- White space around a path does not count. -/
theorem Path.parse?_trimSpace (inner : List Char) :
    parse? (String.ofList (Text.trimSpace inner)) = parse? (String.ofList inner) := by
  rw [parse?, parse?, String.toList_ofList, String.toList_ofList, Text.trimSpace_trimSpace]

/-- If `inner` is a path on a single line, it is taken for a reference in double braces. -/
theorem isTaken_of_parse? {path : Path} (hpath : Path.parse? (String.ofList inner) = some path)
    (hsingle : '\n' ∉ Text.trimSpace inner) : IsTaken inner := by
  cases hcore : Text.trimSpace inner with
  | nil =>
    rw [← Path.parse?_trimSpace, hcore] at hpath
    cases hpath
  | cons c rest =>
    refine ⟨⟨c, Text.mem_of_mem_trimSpace (by simp [hcore]), ?_⟩, hsingle⟩
    rintro rfl
    exact hsingle (by simp [hcore])

end Texts

/-- The `path` leads to `v`: its root is looked up in `outputs`, and only if there is none of this
name in `inputs`; the steps lead on from there. -/
def Finds (outputs inputs : Variables) (path : Path) (v : Value) : Prop :=
  ∃ root, (outputs.value? path.root = some root ∨
      outputs.value? path.root = none ∧ inputs.value? path.root = some root) ∧
    path.walk? root = some v

/-- What the value of an argument stands for when the variables are `outputs` and `inputs`. -/
inductive StandsFor (outputs inputs : Variables) : Value → Value → Prop
  /-- A path on a single line in double braces stands for the value `v` at this path. -/
  | found {inner : List Char} {path : Path} {v : Value}
      (hpath : Path.parse? (String.ofList inner) = some path)
      (hsingle : '\n' ∉ Text.trimSpace inner) (hfound : Finds outputs inputs path v)
      (hv : v ≠ .null) : StandsFor outputs inputs (.string (braced inner)) v
  /-- If nothing or null is at the path, it stands for the empty text. -/
  | missing {inner : List Char} {path : Path}
      (hpath : Path.parse? (String.ofList inner) = some path)
      (hsingle : '\n' ∉ Text.trimSpace inner)
      (hmissing : ∀ v, Finds outputs inputs path v → v = .null) :
      StandsFor outputs inputs (.string (braced inner)) (.string "")
  /-- A text in double braces that is no path, and is taken for a reference all the same, is lost:
  it stands for the empty text. -/
  | lost {inner : List Char} (hpath : Path.parse? (String.ofList inner) = none)
      (htaken : IsTaken inner) : StandsFor outputs inputs (.string (braced inner)) (.string "")
  /-- Every other value stands for itself. -/
  | other {v : Value} (h : ∀ inner, v = .string (braced inner) → ¬ IsTaken inner) :
      StandsFor outputs inputs v v

section Values

variable {outputs inputs : Variables} {path : Path} {v w : Value}

/-- A `path` is found in the layered scope exactly if it leads to a value among `outputs` and
`inputs`. -/
theorem find?_layered_eq_some :
    path.find? (layered outputs inputs) = some v ↔ Finds outputs inputs path v := by
  rw [Path.find?, Option.bind_eq_some_iff, Finds]
  simp only [layered, Option.or_eq_some_iff]

/-- If `inner` is taken for a reference, it stands for the value that is found at its path, unless
there is none or null. -/
theorem standsFor_of_isTaken {inner : List Char} (h : IsTaken inner) :
    StandsFor outputs inputs (.string (braced inner))
      ((((Path.parse? (String.ofList inner)).bind fun path =>
        path.find? (layered outputs inputs)).bind Value.nonNull?).getD (.string "")) := by
  -- No path stands between the braces; it leads nowhere; it leads to null; it leads to a value.
  cases hpath : Path.parse? (String.ofList inner) with
  | none => exact .lost hpath h
  | some path =>
    rw [Option.bind_some]
    cases hfind : path.find? (layered outputs inputs) with
    | none =>
      refine .missing hpath h.single fun v hv => ?_
      rw [find?_layered_eq_some.2 hv] at hfind
      cases hfind
    | some v =>
      rw [Option.bind_some]
      by_cases hv : v = .null
      · subst hv
        refine .missing hpath h.single fun w hw => ?_
        rw [find?_layered_eq_some.2 hw] at hfind
        exact Option.some.inj hfind
      · rw [Value.nonNull?_of_ne hv]
        exact .found hpath h.single (find?_layered_eq_some.1 hfind) hv

/-- Dereferencing a text that is taken for a reference gives the value that is found at its path,
unless there is none or null. -/
theorem Value.dereference_braced {inner : List Char} (h : IsTaken inner) :
    (Value.string (braced inner)).dereference (layered outputs inputs) =
      (((Path.parse? (String.ofList inner)).bind fun path =>
        path.find? (layered outputs inputs)).bind nonNull?).getD (.string "") := by
  rw [dereference_of_referenced _ (referenced?_braced.2 ⟨h, rfl⟩), Path.parse?_trimSpace]

/-- What dereferencing makes of `v` is what it stands for. -/
theorem Value.standsFor_dereference (v : Value) :
    StandsFor outputs inputs v (v.dereference (layered outputs inputs)) := by
  by_cases h : ∃ inner, v = .string (braced inner) ∧ IsTaken inner
  · obtain ⟨inner, rfl, htaken⟩ := h
    rw [dereference_braced htaken]
    exact standsFor_of_isTaken htaken
  · rw [dereference_of_not_referenced]
    · exact .other fun inner hv htaken => h ⟨inner, hv, htaken⟩
    · rintro text rfl
      refine Option.eq_none_iff_forall_ne_some.2 fun core hcore => ?_
      obtain ⟨inner, rfl, htaken, -⟩ := referenced?_eq_some.1 hcore
      exact h ⟨inner, rfl, htaken⟩

/-- Dereferencing makes `w` of `v` exactly if `v` stands for `w`. -/
theorem Value.dereference_eq_iff :
    v.dereference (layered outputs inputs) = w ↔ StandsFor outputs inputs v w := by
  constructor
  · rintro rfl
    exact standsFor_dereference v
  · intro h
    -- Each rule settles whether the text is taken and what is found, and so the value.
    cases h with
    | found hpath hsingle hfound hv =>
      rw [dereference_braced (isTaken_of_parse? hpath hsingle), hpath, Option.bind_some,
        find?_layered_eq_some.2 hfound, Option.bind_some, nonNull?_of_ne hv, Option.getD_some]
    | @missing inner path hpath hsingle hmissing =>
      rw [dereference_braced (isTaken_of_parse? hpath hsingle), hpath, Option.bind_some]
      cases hfind : path.find? (layered outputs inputs) with
      | none => rfl
      | some v =>
        rw [hmissing v (find?_layered_eq_some.1 hfind)]
        rfl
    | lost hpath htaken =>
      rw [dereference_braced htaken, hpath]
      rfl
    | other h =>
      refine dereference_of_not_referenced _ ?_
      rintro text rfl
      refine Option.eq_none_iff_forall_ne_some.2 fun core hcore => ?_
      obtain ⟨inner, rfl, htaken, -⟩ := referenced?_eq_some.1 hcore
      exact h inner rfl htaken

end Values

namespace Arguments

/-- Resolving keeps the names of `arguments` in their order, and replaces each value by what it
stands for. -/
theorem resolve_standsFor {arguments : Arguments} (h : (arguments.map Prod.fst).Nodup)
    (outputs inputs : Variables) :
    List.Forall₂ (fun entry resolved => resolved.1 = entry.1 ∧
        ∀ w, resolved.2 = w ↔ StandsFor outputs inputs entry.2 w)
      arguments (arguments.resolve outputs inputs) := by
  have hnames : ((arguments.map fun entry =>
      (entry.1, entry.2.dereference (layered outputs inputs))).map Prod.fst).Nodup := by
    rw [List.map_map]
    exact h
  -- With distinct names no entry takes the place of an earlier one.
  rw [resolve, collect_of_nodup hnames, List.forall₂_map_right_iff]
  exact List.forall₂_same.2 fun entry _ => ⟨rfl, fun w => Value.dereference_eq_iff⟩

/-- Two arguments, one of which is a reference to an output that hides an input. -/
theorem resolve_hiding :
    List.Forall₂ (fun entry resolved => resolved.1 = entry.1 ∧
        ∀ w, resolved.2 = w ↔
          StandsFor [("a", .object [])] [("a", .object [("b", .int 1)])] entry.2 w)
      [("v", .string "\x7b\x7b a.b \x7d\x7d"), ("w", .int 2)]
      [("v", .string ""), ("w", .int 2)] := by
  have hresolve : Arguments.resolve [("v", .string "\x7b\x7b a.b \x7d\x7d"), ("w", .int 2)]
      [("a", .object [])] [("a", .object [("b", .int 1)])] =
        [("v", .string ""), ("w", .int 2)] := by decide +kernel
  rw [← hresolve]
  exact resolve_standsFor (by decide) _ _

/-- Two references with a text between them are no path, and are lost all the same. A path with a
line feed in a member is not looked up. -/
theorem resolve_joined :
    Arguments.resolve [("v", .string (braced " a \x7d\x7d and \x7b\x7b b ".toList)),
        ("w", .string (braced " a[\"x\ny\"] ".toList))] [] [("a", .object [("x\ny", .int 1)])] =
      [("v", .string ""), ("w", .string (braced " a[\"x\ny\"] ".toList))] ∧
    Path.parse? " a \x7d\x7d and \x7b\x7b b " = none ∧
    Path.parse? " a[\"x\ny\"] " = some ⟨"a", [.key "x\ny"]⟩ ∧
    Finds [] [("a", .object [("x\ny", .int 1)])] ⟨"a", [.key "x\ny"]⟩ (.int 1) := by
  refine ⟨by decide +kernel, by decide +kernel, by decide +kernel, ?_⟩
  exact ⟨.object [("x\ny", .int 1)], .inr ⟨rfl, rfl⟩, rfl⟩

end Arguments

end Promptbook
