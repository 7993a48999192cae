import Mathlib.Data.List.Basic
import Promptbook.Workflow.Segment

/-!
# The Sections of a Text

Segmentation goes through the lines of a text once, with the lines that it has not used yet and the
last marker at hand. What comes out is said here without such a pass: the marker lines cut the text
into sections, and each section has its segments.

## Main definitions

* `Segment.markers`: what the marker lines of a text say.
* `Section`: a marker with the ordinary lines up to the next marker line.
* `Segment.sections`: the sections of a text.
* `Segment.arrange`: the segments of sections.

## Main results

* `Segment.split_eq_arrange`: the pass through the lines arranges their sections. This is the
  induction over the lines.
* `Segment.ofSource_arranged`: the segments of a text are those of its sections, with every marker
  in its place.
-/

namespace Promptbook

/-- A stretch of ordinary lines with the marker before it. Nothing is before the first one. -/
structure Section where
  /-- What the marker line before the lines says. -/
  marker : Option Marker
  /-- The ordinary lines up to the next marker line. -/
  lines : List (List Char)
  deriving DecidableEq

namespace Section

/-- The segment of the marker line of `s`. -/
def heading (s : Section) : List Segment :=
  s.marker.toList.map Segment.marker

/-- The lines of `s` with line breaks between them, without white space at the end. -/
def text (s : Section) : String :=
  String.ofList (Text.dropSpaceRight (['\n'].intercalate s.lines))

/-- The body that the lines of `s` make up. -/
def body (s : Section) : Segment :=
  .body (s.marker.map Marker.instruction) ((s.marker.map Marker.label).getD "") s.text

/-- The segments of a section `s` with a marker line behind it: any line makes a body. -/
def inner (s : Section) : List Segment :=
  s.heading ++ if s.lines.isEmpty then [] else [s.body]

/-- The segments of the last section `s`: only lines with text make a body. -/
def final (s : Section) : List Segment :=
  s.heading ++ if s.lines.all Text.isBlank then [] else [s.body]

end Section

namespace Segment

/-- Whether `line` is a marker line. -/
def isMarkerLine (line : List Char) : Bool :=
  (Marker.read? line).isSome

/-- What the marker lines among `lines` say. -/
def markers (lines : List (List Char)) : List Marker :=
  lines.filterMap Marker.read?

/-- The sections of `lines`: they are cut at the marker lines, and nothing comes before the first
cut. -/
def sections (lines : List (List Char)) : List Section :=
  List.zipWith Section.mk (none :: (markers lines).map some) (lines.splitOnP isMarkerLine)

/-- The segments of sections. -/
def arrange : List Section → List Segment
  | [] => []
  | [last] => last.final
  | s :: next :: rest => s.inner ++ arrange (next :: rest)

/-- The marker of a segment. -/
def marker? : Segment → Option Marker
  | marker m => some m
  | body .. => none

/-- The marker that comes last among `segments`. -/
def lastMarker? (segments : List Segment) : Option Marker :=
  segments.reverse.findSome? marker?

/-- The `segments` are those of the sections of the text `source` with these `lines`. -/
structure ArrangedFrom (source : String) (lines : List (List Char)) (segments : List Segment) :
    Prop where
  /-- There is a section for every marker line, and one before the first of them. -/
  cut : (sections lines).map Section.marker = none :: (markers lines).map some
  /-- The sections have the ordinary lines before, between and behind the marker lines. -/
  kept : (sections lines).map Section.lines = lines.splitOnP isMarkerLine
  /-- If the sections have segments, these are all. -/
  arranged : arrange (sections lines) ≠ [] → segments = arrange (sections lines)
  /-- Only if they have none, the text is a single body as it is. -/
  whole : arrange (sections lines) = [] → segments = [body none "" source]
  /-- Every marker line has its segment, in the same order. -/
  marked : segments.filterMap marker? = markers lines
  /-- Every body belongs to the marker that comes last before it. -/
  attributed : ∀ before after instruction label text,
    segments = before ++ body instruction label text :: after →
      instruction = (lastMarker? before).map Marker.instruction ∧
        label = ((lastMarker? before).map Marker.label).getD ""

section Lines

/-- With a line break after each of `lines` instead of only between them, there is more white space
at the end. -/
theorem dropSpaceRight_joinLines {lines : List (List Char)} (h : lines ≠ []) :
    Text.dropSpaceRight (joinLines lines) =
      Text.dropSpaceRight (['\n'].intercalate lines) := by
  have hjoin : joinLines lines = ['\n'].intercalate lines ++ ['\n'] := by
    induction lines with
    | nil => exact absurd rfl h
    | cons line rest ih =>
      cases rest with
      | nil => simp [joinLines, List.intercalate]
      | cons next rest =>
        have hrest := ih (List.cons_ne_nil next rest)
        show line ++ ['\n'] ++ joinLines (next :: rest) = _
        rw [hrest]
        simp [List.intercalate]
  have hbreak : Text.isSpace '\n' = true := by decide
  simp [Text.dropSpaceRight, hjoin, hbreak]

/-- The body of a section is the one that its lines make up. -/
theorem ofLines_eq_body (active : Option Marker) {lines : List (List Char)} (h : lines ≠ []) :
    ofLines active lines = (Section.mk active lines).body := by
  rw [ofLines, dropSpaceRight_joinLines h]
  rfl

end Lines

/-- A section `s` in front of others has a marker line behind it. -/
theorem arrange_cons (s : Section) {rest : List Section} (h : rest ≠ []) :
    arrange (s :: rest) = s.inner ++ arrange rest := by
  cases rest with
  | nil => exact absurd rfl h
  | cons next rest => rfl

/-- The sections of `lines` that come behind the marker `active` and behind `pending` lines, last
first. -/
def sectionsFrom (active : Option Marker) (pending lines : List (List Char)) : List Section :=
  List.zipWith Section.mk (active :: (markers lines).map some)
    ((lines.splitOnP isMarkerLine).modifyHead (pending.reverse ++ ·))

section Pass

variable {active : Option Marker} {pending rest : List (List Char)} {line : List Char}

/-- At the end the `pending` lines are the only section. -/
theorem sectionsFrom_nil : sectionsFrom active pending [] = [⟨active, pending.reverse⟩] := by
  simp [sectionsFrom, markers]

/-- Without pending lines the sections are those of the lines alone. -/
theorem sectionsFrom_unpending :
    sectionsFrom active [] rest =
      List.zipWith Section.mk (active :: (markers rest).map some) (rest.splitOnP isMarkerLine) := by
  rw [sectionsFrom]
  cases rest.splitOnP isMarkerLine <;> rfl

/-- At a marker `line` the `pending` lines are complete. -/
theorem sectionsFrom_marker {m : Marker} (hread : Marker.read? line = some m) :
    sectionsFrom active pending (line :: rest) =
      ⟨active, pending.reverse⟩ :: sectionsFrom (some m) [] rest := by
  have hmarker : isMarkerLine line = true := by rw [isMarkerLine, hread]; rfl
  rw [sectionsFrom_unpending]
  simp [sectionsFrom, markers, hread, List.splitOnP_cons_eq_if_modifyHead, hmarker]

/-- An ordinary `line` becomes a pending one. -/
theorem sectionsFrom_ordinary (hread : Marker.read? line = none) :
    sectionsFrom active pending (line :: rest) = sectionsFrom active (line :: pending) rest := by
  have hmarker : isMarkerLine line = false := by rw [isMarkerLine, hread]; rfl
  have hfirst : (pending.reverse ++ ·) ∘ List.cons line = ((line :: pending).reverse ++ ·) := by
    funext first
    simp
  simp only [sectionsFrom, markers, List.filterMap_cons, hread,
    List.splitOnP_cons_eq_if_modifyHead, hmarker, Bool.false_eq_true, if_false,
    List.modifyHead_modifyHead, hfirst]

/-- There is always a section. -/
theorem sectionsFrom_ne_nil : sectionsFrom active pending rest ≠ [] := by
  cases hsplit : rest.splitOnP isMarkerLine with
  | nil => exact absurd hsplit (List.splitOnP_ne_nil _ _)
  | cons first more =>
    rw [sectionsFrom, hsplit]
    exact List.cons_ne_nil _ _

/-- The `pending` lines make the same body whether they are kept in order or last first. -/
theorem ite_ofLines (test : List (List Char) → Bool) (hnil : test [] = true)
    (hreverse : test pending.reverse = test pending) :
    (if test pending then [] else [ofLines active pending.reverse]) =
      if test pending.reverse then [] else [(Section.mk active pending.reverse).body] := by
  rw [hreverse]
  split
  · rfl
  · rename_i htest
    rw [ofLines_eq_body]
    rintro hempty
    rw [List.reverse_eq_nil_iff.1 hempty] at htest
    exact htest hnil

end Pass

/-- The pass through `lines` arranges their sections. The `pending` lines, which it has not used
yet, belong to the first section, whose marker has come before. -/
theorem heading_append_split (active : Option Marker) (pending lines : List (List Char)) :
    (active.toList.map marker) ++ split active pending lines =
      arrange (sectionsFrom active pending lines) := by
  induction lines generalizing active pending with
  | nil =>
    rw [sectionsFrom_nil, split, ite_ofLines (·.all Text.isBlank) rfl List.all_reverse]
    rfl
  | cons line rest ih =>
    rw [split]
    cases hread : Marker.read? line with
    | some m =>
      -- The pending lines are a section of their own, and the next one begins with this marker.
      rw [sectionsFrom_marker hread, arrange_cons _ sectionsFrom_ne_nil, ← ih (some m) []]
      simp only [ite_ofLines List.isEmpty rfl List.isEmpty_reverse]
      exact (List.append_assoc _ _ _).symm
    | none =>
      rw [sectionsFrom_ordinary hread]
      exact ih active (line :: pending)

/-- The pass through all `lines` of a text arranges its sections. -/
theorem split_eq_arrange (lines : List (List Char)) :
    split none [] lines = arrange (sections lines) := by
  have hpass := heading_append_split none [] lines
  rwa [sectionsFrom_unpending] at hpass

/-- There is one section more than there are marker lines. -/
theorem length_splitOnP (lines : List (List Char)) :
    (lines.splitOnP isMarkerLine).length = (markers lines).length + 1 := by
  induction lines with
  | nil => rfl
  | cons line rest ih =>
    rw [List.splitOnP_cons_eq_if_modifyHead, markers, List.filterMap_cons]
    cases hread : Marker.read? line with
    | some m =>
      have hmarker : isMarkerLine line = true := by rw [isMarkerLine, hread]; rfl
      rw [hmarker, if_pos rfl, List.length_cons, ih]
      rfl
    | none =>
      have hmarker : isMarkerLine line = false := by rw [isMarkerLine, hread]; rfl
      rw [hmarker, if_neg Bool.false_ne_true, List.length_modifyHead, ih]
      rfl

/-- The markers among the segments of `lines` are those of the lines. -/
theorem filterMap_marker?_split (active : Option Marker) (pending lines : List (List Char)) :
    (split active pending lines).filterMap marker? = markers lines := by
  induction lines generalizing active pending with
  | nil =>
    rw [split]
    split <;> rfl
  | cons line rest ih =>
    rw [split, markers, List.filterMap_cons]
    cases Marker.read? line with
    | some m =>
      have hpending : (if pending.isEmpty then [] else
          [ofLines active pending.reverse]).filterMap marker? = [] := by
        split <;> rfl
      simp only [List.filterMap_append, hpending, List.nil_append, List.filterMap_cons, marker?, ih]
      rfl
    | none => exact ih active (line :: pending)

/-- Behind a marker `m`, this is the last one, unless another one comes. -/
theorem lastMarker?_append_marker (first rest : List Segment) (m : Marker) :
    lastMarker? (first ++ marker m :: rest) = (lastMarker? rest).or (some m) := by
  simp only [lastMarker?, List.reverse_append, List.reverse_cons, List.append_assoc,
    List.findSome?_append]
  rfl

/-- If a list of segments starts with a marker `m`, a body in it comes behind this marker. -/
theorem exists_behind_marker {m : Marker} {rest before after : List Segment}
    {instruction : Option Instruction} {label text : String}
    (h : marker m :: rest = before ++ body instruction label text :: after) :
    ∃ before', before = marker m :: before' ∧
      rest = before' ++ body instruction label text :: after := by
  cases before with
  | nil => cases (List.cons.inj h).1
  | cons first before =>
    obtain ⟨rfl, hrest⟩ := List.cons.inj h
    exact ⟨before, rfl, hrest⟩

/-- A body belongs to the marker that comes last before it, or else to the `active` one. -/
theorem marker_of_split {active : Option Marker} {pending lines : List (List Char)}
    {before after : List Segment} {instruction : Option Instruction} {label text : String}
    (h : split active pending lines = before ++ body instruction label text :: after) :
    instruction = ((lastMarker? before).or active).map Marker.instruction ∧
      label = (((lastMarker? before).or active).map Marker.label).getD "" := by
  induction lines generalizing active pending before with
  | nil =>
    rw [split] at h
    split at h
    · simp at h
    · obtain ⟨rfl, hbody, -⟩ : before = [] ∧
          body instruction label text = ofLines active pending.reverse ∧ after = [] := by
        simpa [List.singleton_eq_append_iff, and_assoc] using h
      cases hbody
      exact ⟨rfl, rfl⟩
  | cons line rest ih =>
    rw [split] at h
    cases hread : Marker.read? line with
    | none =>
      rw [hread] at h
      exact ih h
    | some m =>
      simp only [hread] at h
      -- Behind the marker the active one does not count any more.
      have hbehind : ∀ {before' : List Segment}, marker m :: split (some m) [] rest =
          before' ++ body instruction label text :: after → ∀ first,
            instruction = ((lastMarker? (first ++ before')).or active).map Marker.instruction ∧
              label = (((lastMarker? (first ++ before')).or active).map Marker.label).getD "" := by
        intro before' hmarker first
        obtain ⟨before', rfl, hrest⟩ := exists_behind_marker hmarker
        rw [lastMarker?_append_marker, Option.or_assoc]
        exact ih hrest
      split at h
      · exact hbehind h []
      · rw [List.singleton_append] at h
        cases before with
        | nil =>
          cases (List.cons.inj h).1
          exact ⟨rfl, rfl⟩
        | cons first before => exact hbehind (List.cons.inj h).2 [first]

/-- Lines without segments have no markers. -/
theorem markers_of_split_eq_nil {lines : List (List Char)} (h : split none [] lines = []) :
    markers lines = [] := by
  rw [← filterMap_marker?_split none [] lines, h]
  rfl

/-- The segments of `source` are those of the sections into which its marker lines cut it. -/
theorem ofSource_arranged (source : String) :
    ArrangedFrom source (Text.lines source.toList) (ofSource source) := by
  have hlength := length_splitOnP (Text.lines source.toList)
  have hsplit := split_eq_arrange (Text.lines source.toList)
  -- A source without segments gets one body with all of it.
  have hsource : ofSource source = if split none [] (Text.lines source.toList) = [] then
      [body none "" source] else split none [] (Text.lines source.toList) := by
    rw [ofSource]
    split
    · rename_i hnone
      rw [if_pos hnone]
    · rename_i hsome
      rw [if_neg hsome]
  refine ⟨?_, ?_, fun hsome => ?_, fun hnone => ?_, ?_, ?_⟩
  · rw [sections, List.map_zipWith, ← List.map_uncurry_zip_eq_zipWith]
    exact List.map_fst_zip (Nat.le_of_eq (by simp [hlength]))
  · rw [sections, List.map_zipWith, ← List.map_uncurry_zip_eq_zipWith]
    exact List.map_snd_zip (Nat.le_of_eq (by simp [hlength]))
  · rw [hsource, hsplit, if_neg hsome]
  · rw [hsource, hsplit, if_pos hnone]
  · rw [hsource]
    split
    · rename_i hnone
      exact (markers_of_split_eq_nil hnone).symm
    · exact filterMap_marker?_split none [] _
  · intro before after instruction label text hbody
    rw [hsource] at hbody
    split at hbody
    · obtain ⟨rfl, hwhole, -⟩ : before = [] ∧
          body instruction label text = body none "" source ∧ after = [] := by
        simpa [List.singleton_eq_append_iff, and_assoc] using hbody
      cases hwhole
      exact ⟨rfl, rfl⟩
    · have hmarker := marker_of_split hbody
      -- A body stands behind its own marker, as `marker_of_split` says for any start.
      rwa [Option.or_none] at hmarker

/-- Blank lines before the first marker line and between two of them make a body, behind the last
one they make none. -/
example :
    ofSource "\n--- PROMPT a ---\n \n\tHi\n\n--- After b ---\n\n--- NOTE ---\n--- prompt c ---\n\n" =
      [body none "" "", marker ⟨.prompt, "a"⟩, body (some .prompt) "a" " \n\tHi",
        marker ⟨.after, "b"⟩, body (some .after) "b" "\n--- NOTE ---", marker ⟨.prompt, "c"⟩] := by
  decide +kernel

end Segment

end Promptbook
