import Promptbook.Proofs.Directive.Bindings

/-!
# Two Lookups of a Path

A path that is written as an argument is looked up where the rendering has come to; in double braces
it is looked up among the outputs and the inputs of the step. Where no loop and no tag of the
template has bound the root, both find the same value: what the host has published last are the
outputs, and what nothing has bound is an input. The steps of the path then lead to the same part,
and values as JSON texts have them are not changed on the way out of the template.

## Main definitions

* `Value.IsJson`: values as JSON texts have them.
* `Prepared.points`: the calls of directives that a pass comes to, with what the template has bound.
* `Template.Point.Free`, `Template.Point.Keeps`: what is assumed of the root of the path.

## Main results

* `Template.walk?_of_walk?`: the steps of a path lead to the same part in a template.
* `Template.valueAt_of_walk?`: so does the lookup in a template, if the root has the same value.
* `Prepared.lookup_of_layered`: at a point outputs and inputs are read with their values.
* `scope_of_find?`: both lookups find the same value wherever a rendering calls a directive.
-/

namespace Promptbook

namespace Value

/-- A value as a JSON text has it: its numbers are finite, and the members of its objects are in
ascending order of the names. -/
inductive IsJson : Value → Prop
  | null : IsJson .null
  | bool (b : Bool) : IsJson (.bool b)
  | int (n : Int) : IsJson (.int n)
  | double {x : Float} (h : x.isFinite = true) : IsJson (.double x)
  | string (s : String) : IsJson (.string s)
  | array {items : List Value} (h : ∀ v ∈ items, IsJson v) : IsJson (.array items)
  | object {fields : Fields Value} (hsorted : fields.Sorted)
      (h : ∀ entry ∈ fields, IsJson entry.2) : IsJson (.object fields)

/-- If `Value.finite` keeps each of `items`, it keeps the array of them. -/
theorem finiteItems_eq {items : List Value} (h : ∀ v ∈ items, v.finite = v) :
    finiteItems items = items := by
  induction items with
  | nil => rfl
  | cons v rest ih =>
    obtain ⟨hv, hrest⟩ := List.forall_mem_cons.1 h
    rw [finiteItems, hv, ih hrest]

/-- If `Value.finite` keeps the value of each member in `fields`, it keeps the object. -/
theorem finiteMembers_eq {fields : List (String × Value)}
    (h : ∀ entry ∈ fields, entry.2.finite = entry.2) : finiteMembers fields = fields := by
  induction fields with
  | nil => rfl
  | cons entry rest ih =>
    obtain ⟨hentry, hrest⟩ := List.forall_mem_cons.1 h
    rw [finiteMembers, hentry, ih hrest]

/-- If `Value.ordered` keeps each of `items`, it keeps the array of them. -/
theorem orderedItems_eq {items : List Value} (h : ∀ v ∈ items, v.ordered = v) :
    orderedItems items = items := by
  induction items with
  | nil => rfl
  | cons v rest ih =>
    obtain ⟨hv, hrest⟩ := List.forall_mem_cons.1 h
    rw [orderedItems, hv, ih hrest]

/-- If `fields` are in order and `Value.ordered` keeps each of the values, it keeps the object. -/
theorem orderedMembers_eq {fields : Fields Value} (hsorted : fields.Sorted)
    (h : ∀ entry ∈ fields, entry.2.ordered = entry.2) : orderedMembers fields = fields := by
  induction fields with
  | nil => rfl
  | cons entry rest ih =>
    obtain ⟨hentry, hrest⟩ := List.forall_mem_cons.1 h
    have htail := (Fields.sorted_cons.1 hsorted).2
    rw [orderedMembers, hentry, ih htail hrest]
    -- The first member is put back in front of the others.
    refine Fields.Sorted.ext (htail.put _ _) hsorted fun name => ?_
    rw [Fields.value?_put, Fields.value?_cons]

/-- A JSON value has no number that `Value.finite` would replace. -/
theorem IsJson.finite_eq {v : Value} (h : v.IsJson) : v.finite = v := by
  induction h with
  | null | bool | int | string => rfl
  | double h => rw [finite, if_pos h]
  | array _ ih => rw [finite, finiteItems_eq ih]
  | object _ _ ih => rw [finite, finiteMembers_eq ih]

/-- A JSON value has its members in the order that `Value.ordered` gives them. -/
theorem IsJson.ordered_eq {v : Value} (h : v.IsJson) : v.ordered = v := by
  induction h with
  | null | bool | int | string | double => rfl
  | array _ ih => rw [ordered, orderedItems_eq ih]
  | object hsorted _ ih => rw [ordered, orderedMembers_eq hsorted ih]

end Value

namespace Template

/-- A `step` is known to templates unless it is an index that does not fit a word with a sign. -/
theorem isSome_stepIndex? {step : PathStep} (h : ∀ n, step = .index n → n < 0x8000000000000000) :
    (stepIndex? step).isSome = true := by
  cases step with
  | key name => rfl
  | index n =>
    have hn := h n rfl
    have hfits : Whole.fits n = true := by
      unfold Whole.fits
      rw [Bool.and_eq_true, decide_eq_true_iff, decide_eq_true_iff]
      unfold Whole.least Whole.greatest
      omega
    rw [stepIndex?, if_pos hfits]
    rfl

/-- If `step` leads from `v` to `w`, so does its `index` in a template: members come before the size
and the ends that a template knows of every value. -/
theorem part?_of_enter? {step : PathStep} {v w index : Value}
    (hindex : stepIndex? step = some index) (h : step.enter? v = some w) :
    part? v index = some w := by
  cases step with
  | key name =>
    cases hindex
    cases v with
    | object fields =>
      have hmember : Fields.value? fields name = some w := h
      simp only [part?, valueText, hmember]
    | _ => cases h
  | index n =>
    simp only [stepIndex?, Option.ite_none_right_eq_some, Option.some.injEq] at hindex
    obtain ⟨-, rfl⟩ := hindex
    cases v with
    -- A number leads to an item of a list, and to the member with this name of an object.
    | array items =>
      have hitem : items[n]? = some w := h
      simp only [part?, whole?, Int.natCast_nonneg, if_true, Int.toNat_natCast, hitem]
    | object fields =>
      have hmember : Fields.value? fields (toString n) = some w := h
      have htext : valueText (.int n) = toString n := rfl
      simp only [part?, htext, hmember]
    | _ => cases h

/-- If a path leads from `root` to `v`, so do the indexes that stand for its steps in a template. -/
theorem walk?_of_walk? {path : Path} {root v : Value}
    (hindex : ∀ step ∈ path.steps, (stepIndex? step).isSome = true)
    (h : path.walk? root = some v) :
    ∃ indexes, path.steps.mapM stepIndex? = some indexes ∧
      (Operand.value root).walk? indexes = some (.value v) := by
  obtain ⟨name, steps⟩ := path
  unfold Path.walk? at h
  -- On the steps, from a root that moves on with each of them.
  induction steps generalizing root with
  | nil =>
    cases h
    exact ⟨[], rfl, rfl⟩
  | cons step rest ih =>
    obtain ⟨hstep, hrest⟩ := List.forall_mem_cons.1 hindex
    obtain ⟨index, hindex⟩ := Option.isSome_iff_exists.1 hstep
    rw [List.foldlM_cons] at h
    obtain ⟨next, hnext, h⟩ := Option.bind_eq_some_iff.1 h
    obtain ⟨indexes, hindexes, hwalk⟩ := ih hrest h
    refine ⟨index :: indexes, ?_, ?_⟩
    · rw [List.mapM_cons, hindex, hindexes]
      rfl
    · have hpart : (Operand.value root).part? index = some (.value next) := by
        rw [Operand.part?, part?_of_enter? hindex hnext]
        rfl
      rw [Operand.walk?, List.foldlM_cons, hpart]
      exact hwalk

/-- If the root of `path` has the value `root` in `scope`, a template finds the same part `v` of it
as the path does. -/
theorem valueAt_of_walk? {scope : Scope} {path : Path} {root v : Value}
    (hindex : ∀ step ∈ path.steps, (stepIndex? step).isSome = true)
    (hscope : scope path.root = some (.value root)) (h : path.walk? root = some v)
    (hjson : v.IsJson) : valueAt scope path = some v := by
  obtain ⟨indexes, hindexes, hwalk⟩ := walk?_of_walk? hindex h
  rw [valueAt, hindexes, Option.bind_some, hscope, Option.bind_some, hwalk, Option.map_some,
    Operand.toValue, hjson.finite_eq, hjson.ordered_eq]

/-- At `point`, neither a loop nor another tag of the template has bound `name`. -/
structure Point.Free {σ : Type} (point : Point σ) (name : String) : Prop where
  /-- The `name` is none of the variables of the loops around the call. -/
  frames : point.frames.lookup name = none
  /-- The template has not assigned or captured `name` since the host has published it last. -/
  own : name ∉ point.own

end Template

open Template (Point lookup)

variable {ω : Type}

/-- No directive has removed an output `name`: if one has been published before `point`, there is
one still. -/
def Template.Point.Keeps (point : Point (Pass ω)) (name : String) : Prop :=
  ∀ vs ∈ point.published, vs.has name = true → point.host.outputs.has name = true

/-- The outputs of `pass` are what has been `published` last, and they are in order. -/
structure Pass.Published (pass : Pass ω) (published : List Variables) : Prop where
  /-- The outputs are the last of the published ones. -/
  outputs : pass.outputs = published.head?.getD []
  /-- The outputs are in order. -/
  sorted : pass.outputs.Sorted

/-- An input `name` is among the variables that a rendering starts with, whatever `source` it
renders. -/
theorem Roots.value?_globals_of_input {inputs : Variables} {name : String} {v : Value}
    (h : inputs.value? name = some v) (source : String) :
    (globals inputs source).value? name = some v := by
  unfold globals
  generalize roots source.toList = names
  induction names generalizing inputs with
  | nil => exact h
  | cons other rest ih =>
    rw [List.foldl_cons]
    refine ih ?_
    split
    · exact h
    · rename_i hother
      rw [Fields.value?_put, if_neg ?_]
      · exact h
      · rintro rfl
        exact hother (Option.isSome_iff_exists.2 ⟨v, h⟩)

namespace Prepared

variable (prepared : Prepared ω) (step : String) (inputs : Variables) (answers : Answers)

/-- The calls of directives that a pass comes to, each with the variables that the template has
bound there. -/
def points (world : ω) : List (Point (Pass ω)) :=
  Template.points prepared.globals (Pass.invoke prepared step inputs answers) prepared.nodes
    (.start world)

variable {prepared step inputs answers}

/-- Every call that is answered publishes the outputs of the pass, in order. -/
theorem keeps_invoke (hprepared : prepared.Orderly) (hanswers : answers.Orderly) :
    Template.Host.Keeps (Pass.invoke prepared step inputs answers) Pass.Published := by
  intro id scope before published answer after hbefore hcall
  obtain ⟨hsorted, hanswer⟩ := sorted_of_invoke hprepared hanswers hbefore.sorted hcall
  exact ⟨⟨hanswer.symm, hsorted⟩, hanswer ▸ hsorted⟩

/-- Wherever a pass calls a directive, a `name` that neither a loop nor the template has bound is
read with the value of the output, or else of the input, unless an output of this name has been
removed. -/
theorem lookup_of_layered {globals : Variables} {point : Point (Pass ω)}
    {machine : Template.Machine (Pass ω)} {name : String} {v : Value}
    (haccounts : Template.Accounts machine.assigned point.own point.published)
    (hpublished : point.host.Published point.published) (hfree : point.Free name)
    (hkeeps : point.Keeps name)
    (hglobals : ∀ v, inputs.value? name = some v → globals.value? name = some v)
    (h : layered point.host.outputs inputs name = some v) :
    lookup globals point.frames machine name = some (.value v) := by
  rw [layered] at h
  simp only [lookup, hfree.frames]
  cases houtput : point.host.outputs.value? name with
  | some w =>
    rw [houtput] at h
    cases h
    cases hlast : point.published with
    | nil =>
      -- Nothing has been published, so there are no outputs.
      rw [hpublished.outputs, hlast] at houtput
      cases houtput
    | cons last earlier =>
      rw [hpublished.outputs, hlast] at houtput
      rw [haccounts.latest last (by rw [hlast]; rfl) name _ hfree.own houtput]
  | none =>
    rw [houtput] at h
    -- An output that had been published would be there still, so the name has only its input.
    have hnever : ∀ vs ∈ point.published, vs.value? name = none := by
      intro vs hvs
      refine Option.not_isSome_iff_eq_none.1 fun hhas => ?_
      have houtputs := hkeeps vs hvs hhas
      rw [Fields.has, houtput] at houtputs
      cases houtputs
    rw [haccounts.unbound name hfree.own hnever, hglobals v h]

end Prepared

/-- The points of a pass are its calls of directives. At each `point`, a `path` with whole numbers
that fit a word with a sign is looked up in the rendering with the same value as among the outputs
and inputs, if neither a loop nor the template has bound its root and no output of this name has
been removed. -/
theorem scope_of_find? (registry : Registry ω) (horderly : registry.Orderly) (step : String)
    (inputs : Variables) (body : String) (world : ω) (prepared : Prepared ω)
    (hprepare : prepare registry inputs body = .ok prepared) (rounds : List (Round ω))
    (answers : Answers) (start : ω)
    (hrounds : prepared.Rounds step inputs ∅ world rounds answers start) :
    (prepared.points step inputs answers start).map Point.toQuestion =
        prepared.questions step inputs answers start ∧
      ∀ point ∈ prepared.points step inputs answers start, ∀ path v,
        point.Free path.root → point.Keeps path.root →
        (∀ n, .index n ∈ path.steps → n < 0x8000000000000000) →
        path.find? (layered point.host.outputs inputs) = some v → v.IsJson →
        point.scope path = some v := by
  have hprepared := Prepared.orderly_of_prepare horderly hprepare
  have hanswers : answers.Orderly :=
    hrounds.orderly hprepared fun key answer h => by simp at h
  have hspec : (prepared.points step inputs answers start).map Point.toQuestion =
        prepared.questions step inputs answers start ∧
      ∀ point ∈ prepared.points step inputs answers start,
        point.Accounted prepared.globals Pass.Published :=
    Template.points_spec (Prepared.keeps_invoke hprepared hanswers) ⟨rfl, Fields.sorted_nil⟩
  obtain ⟨hquestions, hpoints⟩ := hspec
  refine ⟨hquestions, fun point hpoint path v hfree hkeeps hindex hfind hjson => ?_⟩
  obtain ⟨machine, hscope, haccounts, hpublished⟩ := hpoints point hpoint
  obtain ⟨root, hroot, hwalk⟩ := Option.bind_eq_some_iff.1 hfind
  -- The notes are right at the point, which gives the root; from there the steps are the same.
  rw [hscope]
  refine Template.valueAt_of_walk? (fun s hs => ?_) ?_ hwalk hjson
  · exact Template.isSome_stepIndex? fun n heq => hindex n (heq ▸ hs)
  · obtain ⟨_, -, -, -, hglobals⟩ := Prepared.exists_of_prepare hprepare
    refine Prepared.lookup_of_layered haccounts hpublished hfree hkeeps (fun w hw => ?_) hroot
    rw [hglobals]
    exact Roots.value?_globals_of_input hw body

/-- An object with a member whose name is a number. -/
def seat : Value :=
  .array [.int 7, .object [("0", .bool true), ("name", .string "Ada")]]

/-- A directive that sets an output to `seat`, and one that leaves all outputs as they are. -/
def seating : Registry Unit :=
  [("put", ⟨false, fun call => return ⟨call.context.outputs.put "user" (.object [("0", seat)]),
      call.fieldIndex, .ok none⟩⟩),
    ("read", ⟨false, fun call => return call.answer none⟩)]

theorem orderly_seating : seating.Orderly := by
  intro name directive hfound call world reply after hreply hsorted
  have hmem := Fields.mem_of_value? hfound
  simp only [seating, List.mem_cons, List.not_mem_nil, or_false, Prod.mk.injEq] at hmem
  rcases hmem with ⟨-, rfl⟩ | ⟨-, rfl⟩
  · cases hreply
    exact hsorted.put _ _
  · cases hreply
    exact hsorted

/-- An input that the output hides. -/
def seatingInputs : Variables :=
  [("user", .string "nobody")]

/-- A body that calls the second directive after the output has taken the place of an assigned
variable. -/
def seatingBody : String :=
  "{% assign user = 1 %}{% put %}{% read a=user[0][1] %}"

/-- The path to a part of the member. -/
def seatingPath : Path :=
  ⟨"user", [.index 0, .index 1]⟩

/-- At the last call of `seatingBody`, both lookups find the part of the output to which
`seatingPath` leads. -/
theorem scope_of_find?_seating :
    seating.Orderly ∧ ∃ prepared point,
      prepare seating seatingInputs seatingBody = .ok prepared ∧
      point ∈ prepared.points "greeting" seatingInputs ∅ () ∧
      point.Free "user" ∧ point.Keeps "user" ∧
      seatingPath.find? (layered point.host.outputs seatingInputs) =
        some (.object [("0", .bool true), ("name", .string "Ada")]) ∧
      point.scope seatingPath = some (.object [("0", .bool true), ("name", .string "Ada")]) := by
  -- What is asked of the last call is a test, and evaluation passes it.
  have hlast : (match prepare seating seatingInputs seatingBody with
      | .ok prepared =>
        (prepared.points "greeting" seatingInputs ∅ ()).getLast?.any fun point =>
          decide (point.frames.lookup "user" = none) && decide ("user" ∉ point.own) &&
          (point.published.all fun vs => !vs.has "user" || point.host.outputs.has "user") &&
          decide (seatingPath.find? (layered point.host.outputs seatingInputs) =
            some (.object [("0", .bool true), ("name", .string "Ada")]))
      | .error _ => false) = true := by
    decide +kernel
  cases hprepare : prepare seating seatingInputs seatingBody with
  | error e =>
    rw [hprepare] at hlast
    cases hlast
  | ok prepared =>
    rw [hprepare] at hlast
    obtain ⟨point, hpoint, htests⟩ := (Option.any_eq_true _ _).1 hlast
    simp only [Bool.and_eq_true, decide_eq_true_eq, List.all_eq_true, Bool.or_eq_true,
      Bool.not_eq_true'] at htests
    obtain ⟨⟨⟨hframes, hown⟩, hkept⟩, hfind⟩ := htests
    have hmem := List.mem_of_getLast? hpoint
    have hkeeps : point.Keeps "user" := fun vs hvs hhas =>
      (hkept vs hvs).resolve_left (by rw [hhas]; exact Bool.noConfusion)
    -- The part that is found is no float and its members are in order.
    have hjson : Value.IsJson (.object [("0", .bool true), ("name", .string "Ada")]) :=
      .object (show List.Pairwise (· < ·) ["0", "name"] by decide) (List.forall_mem_cons.2
        ⟨.bool true, List.forall_mem_singleton.2 (.string "Ada")⟩)
    have hindex : ∀ n, PathStep.index n ∈ seatingPath.steps → n < 0x8000000000000000 := by
      intro n hn
      have hcases : n = 0 ∨ n = 1 := by simpa [seatingPath] using hn
      omega
    obtain ⟨-, hscope⟩ := scope_of_find? seating orderly_seating "greeting" seatingInputs
      seatingBody () prepared hprepare [] ∅ () .none
    exact ⟨orderly_seating, prepared, point, rfl, hmem, ⟨hframes, hown⟩, hkeeps, hfind,
      hscope point hmem seatingPath _ ⟨hframes, hown⟩ hkeeps hindex hfind hjson⟩

end Promptbook
