import Mathlib.Data.List.TakeWhile
import Promptbook.Proofs.Directive.Isolation
import Promptbook.Workflow.Plan

/-!
# Plans of Parts

A text may be cut where a marker line begins: the plan of the whole is put together from the plans
of the parts. Nothing gets over the cut, neither in the segmentation nor in the rendering.

## Main definitions

* `Segment.BeginsWithMarker`: the first line of a text is a marker line.
* `Segment.hasText`: only such segments become steps.
* `Plan.append`: the steps and errors of two plans in a row, and the output of the first overwritten
  with that of the second.

## Main results

* `Segment.filter_ofSource_append`: behind the cut, the segments with text are those of the second
  part.
* `Options.Functional.fst_ofSource`: every step is what its segment becomes on its own.
* `Plan.ofSource_append`: the plan of a text is put together from the plans of its parts.
-/

namespace Promptbook

/-- A text of which every line is blank is blank. -/
theorem Text.isBlank_of_lines {s : List Char} (h : ∀ line ∈ lines s, isBlank line = true) :
    isBlank s = true := by
  induction s with
  | nil => rfl
  | cons c s ih =>
    unfold lines at h
    split at h
    · rename_i hbreak
      have hspace : isSpace c = true := by
        rw [eq_of_beq hbreak]
        decide
      have hrest := ih (List.forall_mem_cons.1 h).2
      exact Bool.and_eq_true_iff.2 ⟨hspace, hrest⟩
    · cases hlines : lines s with
      | nil => exact absurd hlines (lines_ne_nil s)
      | cons line rest =>
        rw [hlines] at h ih
        obtain ⟨hline, hrest⟩ := List.forall_mem_cons.1 h
        obtain ⟨hspace, hline⟩ := Bool.and_eq_true_iff.1 hline
        exact Bool.and_eq_true_iff.2 ⟨hspace, ih (List.forall_mem_cons.2 ⟨hline, hrest⟩)⟩

namespace Segment

/-- The first line of `source` is a marker line. -/
def BeginsWithMarker (source : String) : Prop :=
  ∃ line rest m, Text.lines source.toList = line :: rest ∧ Marker.read? line = some m

/-- Whether a segment has text. Marker lines have none of their own. -/
def hasText : Segment → Bool
  | marker _ => false
  | body _ _ text => !Text.isBlank text.toList

/-- Blank `lines` make up a body without text. -/
theorem hasText_ofLines (active : Option Marker) {lines : List (List Char)}
    (h : ∀ line ∈ lines, Text.isBlank line = true) : (ofLines active lines).hasText = false := by
  have hjoined : ∀ c ∈ joinLines lines, Text.isSpace c = true := by
    intro c hc
    obtain ⟨line, hline, hc⟩ := List.mem_flatMap.1 hc
    rcases List.mem_append.1 hc with hc | hc
    · exact List.all_eq_true.1 (h line hline) c hc
    · rw [List.mem_singleton.1 hc]
      decide
  -- Nothing is left when the white space at the end is dropped.
  have hdropped : Text.dropSpaceRight (joinLines lines) = [] := by
    rw [Text.dropSpaceRight, List.reverse_eq_nil_iff, List.dropWhile_eq_nil_iff]
    exact fun c hc => hjoined c (List.mem_reverse.1 hc)
  simp [ofLines, hdropped, hasText, Text.isBlank]

/-- Whether `pending` lines that are all blank make up a body or not makes no difference to the
segments with text. -/
theorem filter_hasText_pending (active : Option Marker) (pending : List (List Char)) :
    (if pending.isEmpty then [] else [ofLines active pending.reverse]).filter hasText =
      (if pending.all Text.isBlank then [] else [ofLines active pending.reverse]).filter
        hasText := by
  split
  · rename_i hempty
    rw [List.isEmpty_iff.1 hempty]
    rfl
  · split
    · rename_i hblank
      have hlines : ∀ line ∈ pending.reverse, Text.isBlank line = true := fun line hline =>
        List.all_eq_true.1 hblank line (List.mem_reverse.1 hline)
      simp [hasText_ofLines active hlines]
    · rfl

/-- Where a marker `line` stands, the lines before it are split as if they were all, and those
behind it as if it were the first. -/
theorem filter_split_append {line : List Char} {m : Marker} (hmarker : Marker.read? line = some m)
    (active : Option Marker) (pending before rest : List (List Char)) :
    (split active pending (before ++ line :: rest)).filter hasText =
      (split active pending before).filter hasText ++ (split (some m) [] rest).filter hasText := by
  induction before generalizing active pending with
  | nil =>
    simp only [List.nil_append, split, hmarker, List.filter_append, filter_hasText_pending]
    rfl
  | cons first before ih =>
    rw [List.cons_append, split, split]
    cases Marker.read? first with
    | some m' =>
      simp only [List.filter_append, List.filter_cons, ih (some m') [], List.append_assoc]
      rfl
    | none => exact ih active (first :: pending)

/-- If lines give no segment, they are blank. -/
theorem isBlank_of_split_eq_nil {active : Option Marker} {pending lines : List (List Char)}
    (h : split active pending lines = []) :
    ∀ line ∈ pending ++ lines, Text.isBlank line = true := by
  induction lines generalizing pending with
  | nil =>
    unfold split at h
    split at h
    · rename_i hblank
      rw [List.append_nil]
      exact List.all_eq_true.1 hblank
    · cases h
  | cons line lines ih =>
    unfold split at h
    split at h
    · simp at h
    · intro other hother
      refine ih h other ?_
      simpa only [List.mem_append, List.mem_cons, or_assoc, or_left_comm] using hother

/-- The segments of `source` that have text are those that its lines are split into. -/
theorem filter_ofSource (source : String) :
    (ofSource source).filter hasText =
      (split none [] (Text.lines source.toList)).filter hasText := by
  unfold ofSource
  split
  · rename_i hnone
    -- The whole text is then taken as a body, but it is blank.
    have hblank := Text.isBlank_of_lines (isBlank_of_split_eq_nil hnone)
    rw [hnone]
    simp [hasText, hblank]
  · rfl

/-- Where `second` begins with a marker line, the segments with text of both parts together are
those of `first` and then those of `second`. -/
theorem filter_ofSource_append (first : String) {second : String}
    (hmarker : BeginsWithMarker second) :
    (ofSource (first ++ "\n" ++ second)).filter hasText =
      (ofSource first).filter hasText ++ (ofSource second).filter hasText := by
  obtain ⟨line, rest, m, hlines, hread⟩ := hmarker
  have hwhole : Text.lines (first ++ "\n" ++ second).toList =
      Text.lines first.toList ++ line :: rest := by
    rw [String.toList_append, String.toList_append, List.append_assoc, ← hlines]
    exact Text.lines_append first.toList second.toList
  rw [filter_ofSource, filter_ofSource, filter_ofSource, hwhole, hlines,
    filter_split_append hread none [] (Text.lines first.toList) rest]
  -- The marker line itself has no text.
  congr 1
  simp only [split, hread]
  rfl

end Segment

variable {ω : Type}

/-- A `segment` without text becomes no step. -/
theorem fst_planSegment_of_not_hasText (options : Options ω) (inputs : Variables)
    {segment : Segment} (h : segment.hasText = false) (world : ω) :
    (planSegment options inputs segment world).1 = none := by
  cases segment with
  | marker m => rfl
  | body instruction label text =>
    have hblank : Text.isBlank text.toList = true := by simpa [Segment.hasText] using h
    simp only [planSegment, hblank, if_true]
    rfl

/-- Only `segments` with text become steps. -/
theorem filterMap_planSegment (options : Options ω) (inputs : Variables) (world : ω)
    (segments : List Segment) :
    segments.filterMap (fun segment => (planSegment options inputs segment world).1) =
      (segments.filter Segment.hasText).filterMap fun segment =>
        (planSegment options inputs segment world).1 := by
  rw [List.filterMap_filter]
  refine congrArg (List.filterMap · segments) (funext fun segment => ?_)
  cases htext : segment.hasText with
  | true => rfl
  | false => exact fst_planSegment_of_not_hasText options inputs htext world

namespace Options.Functional

variable {options : Options ω} (h : options.Functional) (inputs : Variables)

include h

/-- A `segment` becomes the same step in every world. -/
theorem fst_planSegment (segment : Segment) (world world' : ω) :
    (planSegment options inputs segment world).1 =
      (planSegment options inputs segment world').1 := by
  cases segment with
  | marker m => rfl
  | body instruction label text =>
    simp only [planSegment]
    split
    · rfl
    · -- The template does not depend on the world, and what it is rendered to does not either.
      have hrender := h.registry.fst_render label inputs
        (Hook.insertCalls options.immediate.has text) world world'
      simp only [renderBody, bind, StateT.bind]
      generalize render _ label inputs _ world = rendered at hrender ⊢
      generalize render _ label inputs _ world' = rendered' at hrender ⊢
      obtain ⟨rendering, after⟩ := rendered
      obtain ⟨rendering', after'⟩ := rendered'
      cases hrender
      rfl

/-- In a row, `segments` become the steps that each of them becomes on its own. -/
theorem fst_planSegments (segments : List Segment) (world world' : ω) :
    (planSegments options inputs segments world).1 =
      segments.filterMap fun segment => (planSegment options inputs segment world').1 := by
  induction segments generalizing world with
  | nil => rfl
  | cons segment rest ih =>
    have hstep := h.fst_planSegment inputs segment world world'
    obtain ⟨⟨step, after⟩, hplan⟩ : ∃ r, planSegment options inputs segment world = r := ⟨_, rfl⟩
    rw [hplan] at hstep
    rw [List.filterMap_cons, ← hstep, ← ih after]
    simp only [planSegments, bind, StateT.bind, hplan]
    cases step <;> rfl

/-- The plan of `source` has the steps that its segments become, each on its own and in whatever
world. -/
theorem fst_ofSource (source : String) (world world' : ω) :
    (Plan.ofSource source inputs options world).1 =
      .ofSteps ((Segment.ofSource source).filterMap fun segment =>
        (planSegment options inputs segment world').1) :=
  congrArg Plan.ofSteps (h.fst_planSegments inputs (Segment.ofSource source) world world')

end Options.Functional

namespace Plan

/-- The steps and errors of two plans in a row, and the output of the first one overwritten with
that of the second. -/
def append (first second : Plan) : Plan :=
  ⟨first.steps ++ second.steps, first.errors ++ second.errors, first.output.overlay second.output⟩

/-- The output of a plan is that of its `steps`, laid over each other. -/
theorem output_ofSteps (steps : List Step) :
    (ofSteps steps).output = (steps.map Step.outputs).foldl Fields.overlay [] :=
  List.foldl_map.symm

/-- The plan with `steps` and then `steps'` is put together from the plans of both. -/
theorem ofSteps_append (steps steps' : List Step) :
    ofSteps (steps ++ steps') = (ofSteps steps).append (ofSteps steps') := by
  have hsorted := Fields.sorted_nil.foldl_overlay (steps.map Step.outputs)
  have houtput : (ofSteps (steps ++ steps')).output =
      Fields.overlay (ofSteps steps).output (ofSteps steps').output := by
    rw [output_ofSteps, output_ofSteps, output_ofSteps, List.map_append, List.foldl_append]
    exact hsorted.foldl_overlay_eq _
  have herrors : (ofSteps (steps ++ steps')).errors =
      (ofSteps steps).errors ++ (ofSteps steps').errors := List.filterMap_append
  rw [append, ← houtput, ← herrors]
  rfl

/-- If what the caller adds answers as a function of its call, the plan of a text is put together
from the plan of what stands before a marker line and the plan of what begins there, and every step
of a plan is what its segment becomes on its own, in whatever world. -/
theorem ofSource_append {options : Options ω} (hfunctional : options.Functional)
    (inputs : Variables) (first second : String) (hmarker : Segment.BeginsWithMarker second)
    (world world₁ world₂ : ω) :
    (ofSource (first ++ "\n" ++ second) inputs options world).1 =
        (ofSource first inputs options world₁).1.append
          (ofSource second inputs options world₂).1 ∧
      ∀ source world world', (ofSource source inputs options world).1.steps =
        (Segment.ofSource source).filterMap fun segment =>
          (planSegment options inputs segment world').1 := by
  constructor
  · -- Each plan has the steps of its segments with text, and these are cut in the same way.
    rw [hfunctional.fst_ofSource inputs _ world world,
      hfunctional.fst_ofSource inputs _ world₁ world,
      hfunctional.fst_ofSource inputs _ world₂ world, ← ofSteps_append, filterMap_planSegment,
      Segment.filter_ofSource_append first hmarker, List.filterMap_append, ← filterMap_planSegment,
      ← filterMap_planSegment]
  · intro source world world'
    exact congrArg Plan.steps (hfunctional.fst_ofSource inputs source world world')

/-- A directive that shows how many outputs there are and adds one, under one name awaited and under
another one run in place. -/
def numbered : Options Nat :=
  ⟨[("ask", numbering.run)], [("count", numbering.run)], none⟩

/-- The directives of `numbered` find no output in the second part, though there are some in the
first, and the plan is the same whatever the world. -/
theorem ofSource_append_numbered :
    numbered.Functional ∧ Segment.BeginsWithMarker "--- PROMPT again ---\n{% ask %}{% count %}" ∧
      (ofSource ("{% count %}{% ask %}" ++ "\n" ++ "--- PROMPT again ---\n{% ask %}{% count %}") []
          numbered 0).1 =
        (ofSource "{% count %}{% ask %}" [] numbered 3).1.append
          (ofSource "--- PROMPT again ---\n{% ask %}{% count %}" [] numbered 5).1 ∧
      (ofSource "First {% count %}\n--- PROMPT again ---\n{% count %}" [] numbered 0).1.steps.map
        Step.prompt = ["First 0", "0"] := by
  have hfunctional : numbered.Functional :=
    ⟨List.forall_mem_singleton.2 fun _ _ _ => rfl, List.forall_mem_singleton.2 fun _ _ _ => rfl,
      nofun⟩
  have hmarker : Segment.BeginsWithMarker "--- PROMPT again ---\n{% ask %}{% count %}" :=
    ⟨"--- PROMPT again ---".toList, ["{% ask %}{% count %}".toList], ⟨.prompt, "again"⟩,
      by decide +kernel, by decide +kernel⟩
  exact ⟨hfunctional, hmarker,
    (ofSource_append hfunctional [] "{% count %}{% ask %}" _ hmarker 0 3 5).1, by decide +kernel⟩

end Plan

end Promptbook
