import Promptbook.Proofs.Workflow.Composition
import Promptbook.Proofs.Workflow.MarkerLine

/-!
# Segments Written Out

Segments can be written out as a text again: markers as lines in their plain spelling and bodies as
they are, with line breaks between them. The text need not be the one that the segments come from,
for marker lines may be spelled in other ways and white space at the end of bodies is lost, but it
has the same segments.

## Main definitions

* `Segment.write`: segments as a text.
* `Segment.Laid`: segments that stand behind a marker as segmentation lays them out.

## Main results

* `Marker.read?_spelled`: a line with an instruction in any letter case and a trimmed label is read
  as their marker, whatever the label is.
* `Segment.laid_split`: segmentation lays segments out, by induction on the lines.
* `Segment.Laid.split_eq`: segments that are laid out are read again, by induction on them.
* `Segment.ofSource_write`: both together.
-/

namespace Promptbook

namespace Marker

variable {line : List Char} {m : Marker}

/-- A line with `word`, which names an instruction in some letter case, and `label`. -/
def spelled (word label : List Char) : List Char :=
  dashes ++ ' ' :: word ++ ' ' :: label ++ ' ' :: dashes

/-- A character `c` of such a line is a dash, a space, or a character of `word` or `label`. -/
theorem mem_spelled {word label : List Char} {c : Char} (h : c ∈ spelled word label) :
    c = '-' ∨ c = ' ' ∨ c ∈ word ∨ c ∈ label := by
  simp only [spelled, dashes, List.mem_append, List.mem_cons, List.not_mem_nil, or_false] at h
  tauto

/-- A line with the instruction `i` in any letter case and a trimmed `label` is read as their
marker. -/
theorem read?_spelled {i : Instruction} {word label : String}
    (hname : Text.equalIgnoringAsciiCase i.name word = true) (hlabel : Text.trim label = label) :
    read? (spelled word.toList label.toList) = some ⟨i, label⟩ := by
  have hletters : ∀ c ∈ word.toList, c.isAlpha = true :=
    isAlpha_of_named (by rwa [String.ofList_toList])
  have hline : spelled word.toList label.toList =
      dashes ++ ((' ' :: (word.toList ++ ' ' :: (label.toList ++ [' ']))) ++ dashes) := by
    simp [spelled]
  have htrimmed : Text.trimSpace (spelled word.toList label.toList) =
      dashes ++ ((' ' :: (word.toList ++ ' ' :: (label.toList ++ [' ']))) ++ dashes) := by
    -- The dashes at both ends are what is left of the line when white space is dropped.
    have hends := Text.trimSpace_eq_self (c := '-') (d := '-') rfl rfl
      ('-' :: '-' :: ' ' :: (word.toList ++ ' ' :: (label.toList ++ [' ', '-', '-'])))
    rw [hline]
    simpa [dashes] using hends
  -- Between the dashes: a blank, the word, and the label between blanks.
  refine read?_of_namedIn htrimmed
    ⟨word.toList, ' ' :: (label.toList ++ [' ']), ⟨⟨[' '], rfl, rfl⟩, fun c hc => ?_, ?_, ?_⟩,
      Text.stops_cons.2 (by decide), List.cons_ne_nil _ _⟩
  · exact Text.isWord_of_isAlphanum (by rw [Char.isAlphanum, hletters c hc]; rfl)
  · rwa [String.ofList_toList]
  · have htrim := Text.trimSpace_append (a := [' ']) (b := [' ']) rfl label.toList rfl
    show label = String.ofList (Text.trimSpace ([' '] ++ (label.toList ++ [' '])))
    rw [htrim]
    exact hlabel.symm

/-- White space `w` at the end of a line does not count. -/
theorem read?_append (line : List Char) {w : List Char} (h : Text.isBlank w = true) :
    read? (line ++ w) = read? line := by
  have htrim := Text.trimSpace_append (a := []) rfl line h
  rw [read?, ← List.nil_append (line ++ w), htrim, ← read?]

/-- The label is a trimmed part of the line. -/
theorem label_of_read? (h : read? line = some m) :
    Text.trim m.label = m.label ∧ ∀ c ∈ m.label.toList, c ∈ line := by
  obtain ⟨middle, hline, hmarker⟩ := exists_of_read?_eq_some h
  obtain ⟨word, rest, hreads⟩ : ∃ word rest, Reads middle word rest m := by
    rcases hmarker with ⟨word, rest, hreads, -⟩ | ⟨word, last, hreads, -⟩
    · exact ⟨word, rest, hreads⟩
    · exact ⟨word, [last], hreads⟩
  rw [hreads.label, Text.trim, String.toList_ofList, Text.trimSpace_trimSpace]
  refine ⟨rfl, fun c hc => ?_⟩
  -- From the label to the rest behind the word, the text between the dashes, and the line.
  have hrest : c ∈ rest := Text.mem_of_mem_trimSpace hc
  have hmiddle : c ∈ middle := by
    obtain ⟨blank, -, heq⟩ := hreads.text
    rw [heq]
    simp [hrest]
  refine Text.mem_of_mem_trimSpace ?_
  rw [hline]
  simp [hmiddle]

end Marker

namespace Segment

/-- A segment as it is written. -/
def written : Segment → List Char
  | marker m => m.toLine
  | body _ _ text => text.toList

/-- The `segments` as a text: one after another, with line breaks between them. -/
def write (segments : List Segment) : String :=
  String.ofList (['\n'].intercalate (segments.map written))

/-- The `text` can be that of a body: nothing at its end is white space, and none of its lines is a
marker line. -/
structure IsBodyText (text : List Char) : Prop where
  /-- White space at the end is dropped. -/
  trimmed : Text.dropSpaceRight text = text
  /-- All lines are ordinary ones. -/
  ordinary : ∀ line ∈ Text.lines text, Marker.read? line = none

/-- The marker `m` has been read from a line of a text: it is read again from its plain spelling,
which is a line. -/
structure IsWritable (m : Marker) : Prop where
  /-- The line is read as the marker. -/
  read : Marker.read? (marker m).written = some m
  /-- The line is a single one. -/
  line : '\n' ∉ (marker m).written

/-- Segments that stand behind a marker as segmentation lays them out. -/
inductive Laid : Option Marker → List Segment → Prop
  /-- Nothing is left. -/
  | nil {active : Option Marker} : Laid active []
  /-- The last body has a `text` that is not blank. -/
  | last {active : Option Marker} {text : List Char} (htext : IsBodyText text)
      (hblank : Text.isBlank text = false) : Laid active [ofLines active (Text.lines text)]
  /-- A marker `m` comes next. -/
  | marker {active : Option Marker} {m : Marker} {rest : List Segment} (hm : IsWritable m)
      (hrest : Laid (some m) rest) : Laid active (marker m :: rest)
  /-- A body comes next, with or without text in it, and the next marker `m`. -/
  | body {active : Option Marker} {text : List Char} {m : Marker} {rest : List Segment}
      (htext : IsBodyText text) (hm : IsWritable m) (hrest : Laid (some m) rest) :
      Laid active (ofLines active (Text.lines text) :: Segment.marker m :: rest)

/-- The body that the lines of `text` make up has this text. -/
theorem written_ofLines (active : Option Marker) {text : List Char} (h : IsBodyText text) :
    (ofLines active (Text.lines text)).written = text := by
  rw [ofLines, dropSpaceRight_joinLines (Text.lines_ne_nil text), Text.intercalate_lines, h.trimmed,
    written, String.toList_ofList]

/-- A marker `m` that has been read is writable. -/
theorem isWritable_of_read? {line : List Char} {m : Marker} (h : Marker.read? line = some m)
    (hline : '\n' ∉ line) : IsWritable m := by
  obtain ⟨htrim, hlabel⟩ := Marker.label_of_read? h
  refine ⟨Marker.read?_spelled (by cases m.instruction <;> decide) htrim, fun hmem => ?_⟩
  have hname : '\n' ∉ m.instruction.name.toList := by cases m.instruction <;> decide
  rcases Marker.mem_spelled hmem with hdash | hspace | hword | hmem
  · exact absurd hdash (by decide)
  · exact absurd hspace (by decide)
  · exact hname hword
  · exact hline (hlabel _ hmem)

/-- Lines make up the body of a text. The lines of this text are among them, up to white space at
the end. -/
theorem exists_ofLines_eq (active : Option Marker) {lines : List (List Char)} (hne : lines ≠ [])
    (h : ∀ line ∈ lines, Marker.read? line = none ∧ '\n' ∉ line) :
    ∃ text, IsBodyText text ∧ ofLines active lines = ofLines active (Text.lines text) ∧
      (Text.isBlank text = true → ∀ line ∈ lines, Text.isBlank line = true) := by
  have hlines : Text.lines (['\n'].intercalate lines) = lines :=
    Text.lines_intercalate_of_not_mem hne fun line hline => (h line hline).2
  obtain ⟨b, hb, htext⟩ := Text.exists_eq_dropSpaceRight_append (['\n'].intercalate lines)
  -- The text is the joined lines without the white space at their end. Dropping it shortens the
  -- last lines that are left, and a line stays no marker when white space at its end is dropped.
  have hbody : IsBodyText (Text.dropSpaceRight (['\n'].intercalate lines)) := by
    refine ⟨Text.dropSpaceRight_dropSpaceRight _, fun line hline => ?_⟩
    obtain ⟨w, hw, hmem⟩ := Text.exists_append_mem_lines hb hline
    rw [← htext, hlines] at hmem
    rw [← Marker.read?_append line hw]
    exact (h _ hmem).1
  refine ⟨_, hbody, ?_, fun hblank line hline => ?_⟩
  · rw [ofLines, ofLines, dropSpaceRight_joinLines hne,
      dropSpaceRight_joinLines (Text.lines_ne_nil _), Text.intercalate_lines, hbody.trimmed]
  · have hall : Text.isBlank (['\n'].intercalate lines) = true := by
      rw [htext, Text.isBlank, List.all_append, Bool.and_eq_true]
      exact ⟨hblank, hb⟩
    refine Text.isBlank_of_mem_lines hall ?_
    rw [hlines]
    exact hline

section Reading

variable {active : Option Marker} {pending lines rest : List (List Char)}

/-- Segmentation lays segments out. -/
theorem laid_split
    (hpending : ∀ line ∈ pending, Marker.read? line = none ∧ '\n' ∉ line)
    (hlines : ∀ line ∈ lines, '\n' ∉ line) : Laid active (split active pending lines) := by
  have hbody : pending ≠ [] → _ := fun hne => exists_ofLines_eq active
    (List.reverse_ne_nil_iff.2 hne) fun line hline => hpending line (List.mem_reverse.1 hline)
  -- On the lines that are left; `pending` are those since the last marker, the latest first.
  induction lines generalizing active pending with
  | nil =>
    rw [split]
    split
    · exact .nil
    · rename_i hall
      have hne : pending ≠ [] := by
        rintro rfl
        exact hall rfl
      obtain ⟨text, htext, heq, hblank⟩ := hbody hne
      rw [heq]
      refine .last htext (Bool.eq_false_iff.2 fun htrue => hall ?_)
      exact List.all_eq_true.2 fun line hline => hblank htrue line (List.mem_reverse.2 hline)
  | cons line rest ih =>
    obtain ⟨hline, hrest⟩ := List.forall_mem_cons.1 hlines
    rw [split]
    cases hread : Marker.read? line with
    | none =>
      have hnext : ∀ other ∈ line :: pending, Marker.read? other = none ∧ '\n' ∉ other :=
        List.forall_mem_cons.2 ⟨⟨hread, hline⟩, hpending⟩
      exact ih hnext hrest fun hne => exists_ofLines_eq active
        (List.reverse_ne_nil_iff.2 hne) fun line hline => hnext line (List.mem_reverse.1 hline)
    -- A marker ends the pending lines: they are a body before it, unless there are none.
    | some m =>
      have hm := isWritable_of_read? hread hline
      have hlater : Laid (some m) (split (some m) [] rest) :=
        ih (fun _ h => absurd h List.not_mem_nil) hrest fun hne => absurd rfl hne
      simp only
      split
      · exact .marker hm hlater
      · rename_i hempty
        obtain ⟨text, htext, heq, -⟩ := hbody fun hnil => hempty (by rw [hnil]; rfl)
        rw [heq]
        exact .body htext hm hlater

/-- Ordinary `lines` become pending ones. -/
theorem split_append (h : ∀ line ∈ lines, Marker.read? line = none) :
    split active pending (lines ++ rest) = split active (lines.reverse ++ pending) rest := by
  induction lines generalizing pending with
  | nil => rfl
  | cons line lines ih =>
    obtain ⟨hline, hlines⟩ := List.forall_mem_cons.1 h
    rw [List.cons_append, split, hline, List.reverse_cons, List.append_assoc]
    exact ih hlines

/-- The line of the marker `m` is read as the marker, behind the body that the `pending` lines make
up. -/
theorem split_written {m : Marker} (hm : IsWritable m) :
    split active pending (Text.lines (marker m).written ++ rest) =
      (if pending.isEmpty then [] else [ofLines active pending.reverse]) ++
        marker m :: split (some m) [] rest := by
  rw [Text.lines_of_not_mem hm.line, List.singleton_append, split, hm.read]

/-- Segments that are laid out are read again. -/
theorem Laid.split_eq {segments : List Segment} (h : Laid active segments) :
    split active [] (segments.flatMap fun segment => Text.lines segment.written) = segments := by
  induction h with
  | nil => rfl
  | @last active text htext hblank =>
    have hread : split active [] (Text.lines text ++ []) =
        split active ((Text.lines text).reverse ++ []) [] := split_append htext.ordinary
    rw [List.append_nil, List.append_nil] at hread
    rw [List.flatMap_singleton, written_ofLines active htext, hread, split]
    split
    · rename_i hall
      -- A text of blank lines would be blank.
      have hlines : ∀ line ∈ Text.lines text, Text.isBlank line = true := fun line hline =>
        List.all_eq_true.1 hall line (List.mem_reverse.2 hline)
      rw [Text.isBlank_of_lines hlines] at hblank
      cases hblank
    · rw [List.reverse_reverse]
  | marker hm hrest ih =>
    rw [List.flatMap_cons, split_written hm, ih]
    rfl
  | @body active text m rest htext hm hrest ih =>
    rw [List.flatMap_cons, List.flatMap_cons, written_ofLines active htext,
      split_append htext.ordinary, List.append_nil, split_written hm, ih, List.reverse_reverse,
      List.isEmpty_reverse, List.isEmpty_eq_false_iff.2 (Text.lines_ne_nil text)]
    rfl

end Reading

/-- The lines of `segments` that are written out are those of the segments. -/
theorem lines_write {segments : List Segment} (h : segments ≠ []) :
    Text.lines (write segments).toList =
      segments.flatMap fun segment => Text.lines segment.written := by
  rw [write, String.toList_ofList, Text.lines_intercalate (mt List.map_eq_nil_iff.1 h),
    List.flatMap_map]

/-- Segments that have been read from `source` and are written out are read again. -/
theorem ofSource_write_ofSource (source : String) :
    ofSource (write (ofSource source)) = ofSource source := by
  have hlaid : Laid none (split none [] (Text.lines source.toList)) :=
    laid_split (fun _ h => absurd h List.not_mem_nil) fun _ => Text.break_not_mem_of_mem_lines
  cases hsegments : split none [] (Text.lines source.toList) with
  | nil =>
    -- The only segment is the whole text, so the same text is written.
    have hsource : ofSource source = [body none "" source] := by rw [ofSource, hsegments]
    have hwrite : write [body none "" source] = source := by simp [write, written]
    rw [hsource, hwrite, hsource]
  | cons first rest =>
    have hsource : ofSource source = first :: rest := by rw [ofSource, hsegments]
    rw [hsegments] at hlaid
    rw [hsource, ofSource, lines_write (List.cons_ne_nil first rest), hlaid.split_eq]

/-- A text that is the line of a marker `m` has the marker as its only segment. -/
theorem ofSource_ofList {line : List Char} {m : Marker} (hread : Marker.read? line = some m)
    (hline : '\n' ∉ line) : ofSource (String.ofList line) = [marker m] := by
  rw [ofSource, String.toList_ofList, Text.lines_of_not_mem hline, split, hread]
  rfl

/-- The segments of a text can be written out and are read again. A line with an instruction in any
letter case and a trimmed label without line breaks is read as the marker that has them. -/
theorem ofSource_write :
    (∀ source, ofSource (write (ofSource source)) = ofSource source) ∧
    ∀ (i : Instruction) (word label : String),
      Text.equalIgnoringAsciiCase i.name word = true → '\n' ∉ label.toList →
      Text.trim label = label →
      Marker.read? (Marker.spelled word.toList label.toList) = some ⟨i, label⟩ ∧
        ofSource (String.ofList (Marker.spelled word.toList label.toList)) =
          [marker ⟨i, label⟩] := by
  refine ⟨ofSource_write_ofSource, fun i word label hname hbreak hlabel => ?_⟩
  have hread := Marker.read?_spelled hname hlabel
  refine ⟨hread, ofSource_ofList hread fun hmem => ?_⟩
  have hletters : ∀ c ∈ word.toList, c.isAlpha = true :=
    Marker.isAlpha_of_named (by rwa [String.ofList_toList])
  rcases Marker.mem_spelled hmem with hdash | hspace | hword | hmem
  · exact absurd hdash (by decide)
  · exact absurd hspace (by decide)
  · exact absurd (hletters _ hword) (by decide)
  · exact hbreak hmem

/-- A label of dashes and of an instruction. -/
theorem ofSource_write_dashes :
    Marker.read? "--- pRomPt --- AFTER - --- ---".toList = some ⟨.prompt, "--- AFTER - ---"⟩ ∧
      ofSource "--- pRomPt --- AFTER - --- ---" = [marker ⟨.prompt, "--- AFTER - ---"⟩] :=
  ofSource_write.2 .prompt "pRomPt" "--- AFTER - ---" (by decide) (by decide) (by decide)

end Segment

end Promptbook
