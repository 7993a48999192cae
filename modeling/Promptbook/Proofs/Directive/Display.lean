import Promptbook.Proofs.Directive.Written
import Promptbook.Proofs.Text.Trimming

/-!
# Displayed Paths

A path is displayed with its members behind points and its indices in brackets. This is one of its
written forms as long as the names of all members are keys, and then reading gives the path back. A
member with another name is displayed behind a point all the same, where it is never read as that
member.

## Main definitions

* `Path.IsPlain`: the names of all members are keys.
* `displayed`: the text of the steps of a path.

## Main results

* `Grammar.stepsWritten_displayed`: the display of a plain path is a written form of it.
* `Grammar.isKey_of_steps_displayed`: a member that is read back from a display has a key as its
  name.
* `Path.parse?_display`: the display of a path is read as this path exactly if the path is plain.
-/

namespace Promptbook

open Text (Stops)

/-- The names of all members in `path` are keys. -/
def Path.IsPlain (path : Path) : Prop :=
  ∀ name, .key name ∈ path.steps → Grammar.IsKey name.toList

/-- The text of the `steps` of a path, one behind the other. -/
def displayed (steps : List PathStep) : List Char :=
  steps.flatMap fun step => step.display.toList

/-- The display of `path` is its root with the text of its steps behind it. -/
theorem Path.toList_display (path : Path) :
    path.display.toList = path.root.toList ++ displayed path.steps := by
  rw [display, String.toList_append, String.toList_join, List.flatMap_map]
  rfl

namespace Grammar

variable {s b : List Char} {path : List PathStep}

theorem toList_display_key (name : String) :
    (PathStep.key name).display.toList = '.' :: name.toList := by
  rw [PathStep.display, String.toList_append]
  rfl

theorem toList_display_index (n : Nat) :
    (PathStep.index n).display.toList = '[' :: (Nat.toDigits 10 n ++ [']']) := by
  have hdigits : (toString n).toList = Nat.toDigits 10 n := Nat.toList_repr
  rw [PathStep.display, String.toList_append, String.toList_append, hdigits]
  rfl

/-- The display of a member with a key as its name, and that of an index that fits a word, are
written forms of the `step`. -/
theorem stepWritten_display {step : PathStep} (hkey : ∀ name, step = .key name → IsKey name.toList)
    (hindex : ∀ n, step = .index n → n ≤ Whole.greatestCount) :
    StepWritten step step.display.toList := by
  cases step with
  | key name =>
    have hwritten := StepWritten.dottedKey (hkey name rfl)
    rwa [String.ofList_toList, ← toList_display_key] at hwritten
  | index n =>
    rw [toList_display_index]
    exact .bracketedIndex (spells_toDigits n) (hindex n rfl)

/-- The display of such steps, one behind the other, is a written form of them. -/
theorem stepsWritten_displayed (hkey : ∀ name, .key name ∈ path → IsKey name.toList)
    (hindex : ∀ n, .index n ∈ path → n ≤ Whole.greatestCount) :
    StepsWritten path (displayed path) := by
  induction path with
  | nil => exact .none
  | cons step path ih =>
    refine .more (stepWritten_display ?_ ?_) (ih ?_ ?_)
    · rintro name rfl
      exact hkey name List.mem_cons_self
    · rintro n rfl
      exact hindex n List.mem_cons_self
    · exact fun name hname => hkey name (List.mem_cons_of_mem _ hname)
    · exact fun n hn => hindex n (List.mem_cons_of_mem _ hn)

/-- What is read as an index consists of `digits` that spell a number which fits a word. -/
theorem exists_of_index? {step : PathStep} {rest : List Char} (h : index? s = some (step, rest)) :
    ∃ digits n, step = .index n ∧ Spells digits n ∧ n ≤ Whole.greatestCount ∧
      s = digits ++ rest := by
  simp only [index?] at h
  split at h
  · cases h
  · rename_i digits rest' hdigits
    obtain ⟨hne, hall, hs, -⟩ := digits?_eq_some.1 hdigits
    split at h
    · rename_i hn
      cases h
      exact ⟨digits, _, rfl, ⟨hne, hall, rfl⟩, hn, hs⟩
    · cases h

/-- What is read as a `step` is one of the written forms of the step. -/
theorem exists_of_step? {step : PathStep} {rest : List Char} (h : step? s = some (step, rest)) :
    ∃ t, StepWritten step t ∧ s = t ++ rest := by
  unfold step? at h
  -- A point and a name or an index, or brackets around an index or a quoted name.
  split at h
  · rename_i s
    rw [dotted?] at h
    split at h
    · rename_i hindex
      cases h
      obtain ⟨digits, n, rfl, hdigits, hn, rfl⟩ := exists_of_index? hindex
      exact ⟨_, .dottedIndex hdigits hn, rfl⟩
    · obtain ⟨⟨name, tail⟩, hkey, heq⟩ := Option.map_eq_some_iff.1 h
      cases heq
      obtain ⟨hname, rfl, -⟩ := key?_eq_some.1 hkey
      exact ⟨_, .dottedKey hname, rfl⟩
  · rename_i s
    simp only [bracketed?] at h
    split at h
    · rename_i hinner
      cases h
      split at hinner
      · rename_i hindex
        cases hinner
        obtain ⟨digits, n, rfl, hdigits, hn, rfl⟩ := exists_of_index? hindex
        exact ⟨_, .bracketedIndex hdigits hn, by simp⟩
      · obtain ⟨⟨name, tail⟩, hquoted, heq⟩ := Option.map_eq_some_iff.1 hinner
        cases heq
        obtain ⟨quote, hquote, hname, rfl⟩ := quoted?_eq_some.1 hquoted
        exact ⟨_, .quotedKey hquote hname, by simp⟩
    · cases h
  · cases h

/-- What is read as the steps in front of `s` is one of the written forms of these steps. -/
theorem exists_of_steps (s : List Char) :
    ∃ t, StepsWritten (steps s).1 t ∧ s = t ++ (steps s).2 := by
  induction s using steps.induct with
  | case1 s hnone =>
    rw [steps_of_none hnone]
    exact ⟨[], .none, rfl⟩
  | case2 s step rest hsome ih =>
    rw [steps_of_some hsome]
    obtain ⟨first, hfirst, hs⟩ := exists_of_step? hsome
    obtain ⟨more, hmore, hrest⟩ := ih
    refine ⟨first ++ more, .more hfirst hmore, ?_⟩
    rw [hs, List.append_assoc, ← hrest]

/-- An index `n` in written steps fits a word. -/
theorem StepsWritten.le_greatestCount (h : StepsWritten path s) {n : Nat} (hn : .index n ∈ path) :
    n ≤ Whole.greatestCount := by
  have hwritable := h.writable _ hn
  exact hwritable

/-- If a bracket follows `digits` and `digits'`, and the texts are the same, so are the texts behind
the brackets. -/
theorem eq_of_append_bracket {digits digits' t t' : List Char}
    (hdigits : ∀ c ∈ digits, c.isDigit = true) (hdigits' : ∀ c ∈ digits', c.isDigit = true)
    (h : digits ++ ']' :: t = digits' ++ ']' :: t') : t = t' := by
  have hstops : ∀ t : List Char, Stops Char.isDigit (']' :: t) := fun t => Text.stops_cons.2 rfl
  have hrest := congrArg (List.dropWhile Char.isDigit) h
  rw [Text.dropWhile_append_of_stops hdigits (hstops t),
    Text.dropWhile_append_of_stops hdigits' (hstops t')] at hrest
  exact (List.cons.inj hrest).2

/-- If the display of steps is a written form of them in front of some text `b`, the names of all
members are keys: behind a point nothing else is read as a member. -/
theorem isKey_of_stepsWritten (h : StepsWritten path s) (hdisplay : displayed path = s ++ b) :
    ∀ name, .key name ∈ path → IsKey name.toList := by
  -- On the written steps, as `displayed` shows these one by one.
  induction h with
  | none => nofun
  | @more step rest first more hfirst hmore ih =>
    rw [displayed, List.flatMap_cons, ← displayed, List.append_assoc] at hdisplay
    cases hfirst with
    | @dottedKey key hkey =>
      rw [toList_display_key, String.toList_ofList, List.cons_append, List.cons_append] at hdisplay
      have hrest := List.append_cancel_left (List.cons.inj hdisplay).2
      intro name hname
      rcases List.mem_cons.1 hname with hsame | hname
      · cases hsame
        rwa [String.toList_ofList]
      · exact ih hrest name hname
    -- The display starts with a point, the written form with a bracket.
    | quotedKey =>
      rw [toList_display_key] at hdisplay
      cases (List.cons.inj hdisplay).1
    | dottedIndex =>
      rw [toList_display_index] at hdisplay
      cases (List.cons.inj hdisplay).1
    | @bracketedIndex digits n hdigits hn =>
      rw [toList_display_index, List.cons_append, List.cons_append, List.append_assoc,
        List.append_assoc] at hdisplay
      -- The indexes may differ in leading zeros, but the rest starts behind the same bracket.
      have hrest := eq_of_append_bracket (spells_toDigits n).2.1 hdigits.2.1
        (List.cons.inj hdisplay).2
      intro name hname
      rcases List.mem_cons.1 hname with hsame | hname
      · cases hsame
      · exact ih hrest name hname

end Grammar

namespace Path

open Grammar (IsKey StepsWritten)

/-- A `text` is read as `path` just when it is, apart from white space around it, a key as the root
with a written form of the steps behind it. -/
theorem parse?_eq_some {text : String} {path : Path} :
    parse? text = some path ↔ IsKey path.root.toList ∧
      ∃ s, StepsWritten path.steps s ∧ Text.trimSpace text.toList = path.root.toList ++ s := by
  constructor
  · intro h
    unfold parse? at h
    split at h
    · rename_i found hpath
      cases h
      obtain ⟨⟨root, rest⟩, hkey, heq⟩ := Option.map_eq_some_iff.1 hpath
      obtain ⟨hfound, hend⟩ := Prod.mk.inj heq
      obtain ⟨hroot, htext, -⟩ := Grammar.key?_eq_some.1 hkey
      -- What the key leaves over is taken for steps up to its end.
      obtain ⟨s, hs, hrest⟩ := Grammar.exists_of_steps rest
      rw [hend, List.append_nil] at hrest
      rw [← hfound, String.toList_ofList]
      exact ⟨hroot, s, hs, by rw [htext, hrest]⟩
    · cases h
  · rintro ⟨hroot, s, hs, htext⟩
    have hend : Grammar.EndsValue [] := nofun
    have hkey : Grammar.key? (path.root.toList ++ s) = some (path.root.toList, s) := by
      refine Grammar.key?_eq_some.2 ⟨hroot, rfl, ?_⟩
      rw [← List.append_nil s]
      exact hs.stops hend.stops
    have hsteps : Grammar.steps s = (path.steps, []) := by
      rw [← List.append_nil s]
      exact Grammar.steps_append hs hend
    simp only [parse?, htext, Grammar.path?, hkey, Option.map_some, hsteps, String.ofList_toList]

/-- In the display of a plain path there is no white space. -/
theorem isSpace_of_mem_display {path : Path} (hroot : IsKey path.root.toList)
    (hplain : path.IsPlain) {c : Char} (hc : c ∈ path.display.toList) : Text.isSpace c = false := by
  rw [toList_display, List.mem_append] at hc
  rcases hc with hc | hc
  · exact isSpace_of_continuesKey (hroot.continuesKey hc)
  · obtain ⟨step, hstep, hc⟩ := List.mem_flatMap.1 hc
    cases step with
    | key name =>
      rw [Grammar.toList_display_key] at hc
      rcases List.mem_cons.1 hc with rfl | hc
      · rfl
      · exact isSpace_of_continuesKey ((hplain name hstep).continuesKey hc)
    | index n =>
      rw [Grammar.toList_display_index, List.mem_cons, List.mem_append] at hc
      rcases hc with rfl | hc | hc
      · rfl
      · have hdigit := (Grammar.spells_toDigits n).2.1 c hc
        exact isSpace_of_continuesKey (Grammar.continuesKey_of_isDigit hdigit)
      · obtain rfl := List.mem_singleton.1 hc
        rfl

/-- The display of a path begins with its root, so white space can be taken away at its end only. -/
theorem exists_display_eq {path : Path} (hroot : IsKey path.root.toList) :
    ∃ b, path.display.toList = Text.trimSpace path.display.toList ++ b := by
  obtain ⟨a, b, ha, -, hdisplay⟩ := Text.exists_eq_append_trimSpace_append path.display.toList
  cases a with
  | nil => exact ⟨b, hdisplay⟩
  | cons c a =>
    -- The first character would be white space and start the root.
    obtain ⟨d, rest, hname, hd, -⟩ := hroot
    rw [toList_display, hname] at hdisplay
    obtain rfl : d = c := (List.cons.inj hdisplay).1
    have hspace := List.all_eq_true.1 ha d List.mem_cons_self
    rw [isSpace_of_continuesKey (Grammar.continuesKey_of_startsKey hd)] at hspace
    cases hspace

/-- The display of a plain path is read as this path. -/
theorem parse?_display_of_isPlain {text : String} {path : Path} (h : parse? text = some path)
    (hplain : path.IsPlain) : parse? path.display = some path := by
  obtain ⟨hroot, s, hs, -⟩ := parse?_eq_some.1 h
  refine parse?_eq_some.2 ⟨hroot, displayed path.steps, ?_, ?_⟩
  · exact Grammar.stepsWritten_displayed hplain fun n hn => hs.le_greatestCount hn
  · rw [Text.trimSpace_of_forall fun c hc => isSpace_of_mem_display hroot hplain hc,
      toList_display]

/-- For a `path` that has been read, reading its display gives the path again exactly if the names
of its members are keys. So the displays of two such paths differ if the paths do. -/
theorem parse?_display {text : String} {path : Path} (h : parse? text = some path) :
    (parse? path.display = some path ↔ path.IsPlain) ∧
      ∀ (text' : String) (path' : Path), parse? text' = some path' → path.IsPlain →
        path'.IsPlain → path.display = path'.display → path = path' := by
  refine ⟨⟨fun hread => ?_, parse?_display_of_isPlain h⟩, ?_⟩
  · obtain ⟨hroot, s, hs, htrim⟩ := parse?_eq_some.1 hread
    obtain ⟨b, hdisplay⟩ := exists_display_eq hroot
    rw [htrim, toList_display, List.append_assoc] at hdisplay
    exact Grammar.isKey_of_stepsWritten hs (List.append_cancel_left hdisplay)
  · intro text' path' h' hplain hplain' hsame
    have hread := parse?_display_of_isPlain h hplain
    rw [hsame, parse?_display_of_isPlain h' hplain'] at hread
    exact (Option.some.inj hread).symm

/-- A quoted member whose name is a key, and an index behind a point, are displayed in their other
forms. -/
theorem parse?_display_quoted :
    parse? " a[\"b\"].2 " = some ⟨"a", [.key "b", .index 2]⟩ ∧
      parse? "a.b[2]" = some ⟨"a", [.key "b", .index 2]⟩ := by
  have hpath : parse? " a[\"b\"].2 " = some ⟨"a", [.key "b", .index 2]⟩ := by decide +kernel
  refine ⟨hpath, (parse?_display hpath).1.2 fun name hname => ?_⟩
  obtain rfl : name = "b" := by simpa using hname
  exact ⟨'b', [], rfl, by decide, nofun⟩

/-- A member with a blank in its name, one with a point in it, and one made of a digit are not read
back. The display of the second one is also that of another path. -/
theorem parse?_display_unquoted :
    parse? "a['b c']" = some ⟨"a", [.key "b c"]⟩ ∧ parse? (display ⟨"a", [.key "b c"]⟩) = none ∧
    parse? "a['b.c']" = some ⟨"a", [.key "b.c"]⟩ ∧
      parse? "a.b.c" = some ⟨"a", [.key "b", .key "c"]⟩ ∧
      display ⟨"a", [.key "b.c"]⟩ = display ⟨"a", [.key "b", .key "c"]⟩ ∧
    parse? "a['1']" = some ⟨"a", [.key "1"]⟩ ∧
      parse? (display ⟨"a", [.key "1"]⟩) = some ⟨"a", [.index 1]⟩ := by
  decide +kernel

end Path

end Promptbook
