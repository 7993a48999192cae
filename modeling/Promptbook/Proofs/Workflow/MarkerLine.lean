import Promptbook.Proofs.Directive.Readers
import Promptbook.Proofs.Text.Trimming
import Promptbook.Proofs.Workflow.Segmentation

/-!
# Which Lines are Marker Lines

A marker line starts with three dashes and ends with three others. The text between them names an
instruction by a whole word, in any letter case, and has something behind it, if only white space.
That is the label.

A word that is all there is between the dashes is not read as a whole, however: its last character
is taken for the label. So a line such as `--- PROMPTS---` is a marker line although its word is
none of the instructions.

## Main definitions

* `Marker.Reads`: a text is a word that names an instruction, with a label behind it.
* `Marker.NamedIn`: the word is a whole one.
* `Marker.CutFrom`: the label is the last character of the word.
* `Segment.HasLine`: the text of a body has a line.

## Main results

* `Marker.read?_of_namedIn`: a text between dashes that names an instruction is read as its marker.
* `Segment.exists_hasLine_of_mem`: all other lines with text in them are in bodies, by induction on
  the lines.
* `Marker.marks_iff`: which lines are marker lines, and what becomes of the others.
* `Marker.marks_plural`: a line without an instruction that is a marker line.
-/

namespace Promptbook

open Text (Stops)

/-- An instruction `i` is read from its name in any letter case, and from nothing else. -/
theorem Instruction.read?_eq_some {s : String} {i : Instruction} :
    read? s = some i ↔ Text.equalIgnoringAsciiCase i.name s = true := by
  have hnames : Text.equalIgnoringAsciiCase prompt.name s = true →
      Text.equalIgnoringAsciiCase after.name s = false := by
    intro hprompt
    rw [Text.equalIgnoringAsciiCase, beq_iff_eq] at hprompt
    rw [Text.equalIgnoringAsciiCase, ← hprompt]
    decide
  rw [read?, all, List.find?_cons, List.find?_cons, List.find?_nil]
  cases hprompt : Text.equalIgnoringAsciiCase prompt.name s with
  | true => cases i <;> simp [hprompt, hnames hprompt]
  | false =>
    cases hafter : Text.equalIgnoringAsciiCase after.name s <;> cases i <;> simp [hprompt, hafter]

namespace Marker

/-- Behind white space `middle` is put together from a `word` that names the instruction of `m` in
some letter case, and from a `rest`, which is the label when the white space around it is taken
away. -/
structure Reads (middle word rest : List Char) (m : Marker) : Prop where
  /-- Nothing but white space is before the word, and nothing between it and the rest. -/
  text : ∃ blank, Text.isBlank blank = true ∧ middle = blank ++ (word ++ rest)
  /-- The word has only characters of words. -/
  characters : ∀ c ∈ word, Text.isWord c = true
  /-- The word names the instruction. -/
  named : Text.equalIgnoringAsciiCase m.instruction.name (String.ofList word) = true
  /-- The rest has the label. -/
  label : m.label = String.ofList (Text.trimSpace rest)

/-- The text `middle` starts with a whole word that names the instruction of `m`, and goes on behind
it. -/
def NamedIn (middle : List Char) (m : Marker) : Prop :=
  ∃ word rest, Reads middle word rest m ∧ Stops Text.isWord rest ∧ rest ≠ []

/-- The text `middle` is a single word that names the instruction of `m` when its last character is
cut off, which is taken for the label. -/
def CutFrom (middle : List Char) (m : Marker) : Prop :=
  ∃ word last, Reads middle word [last] m ∧ Text.isWord last = true

/-- What stands between the dashes at both ends of `line`. -/
theorem middle?_eq_some {line middle : List Char} :
    middle? line = some middle ↔ line = dashes ++ (middle ++ dashes) := by
  have hends : ∀ rest, Text.restAfter? dashes rest.reverse = some middle.reverse ↔
      rest = middle ++ dashes := by
    intro rest
    rw [Text.restAfter?_eq_some, List.reverse_eq_iff, List.reverse_append, List.reverse_reverse]
    rfl
  rw [middle?, Option.bind_eq_some_iff]
  constructor
  · rintro ⟨rest, hrest, hmiddle⟩
    obtain ⟨backwards, hbackwards, rfl⟩ := Option.map_eq_some_iff.1 hmiddle
    rw [← List.reverse_reverse backwards] at hbackwards
    rw [Text.restAfter?_eq_some.1 hrest, (hends rest).1 hbackwards]
  · intro hline
    refine ⟨middle ++ dashes, Text.restAfter?_eq_some.2 hline, ?_⟩
    rw [(hends _).2 rfl, Option.map_some, List.reverse_reverse]

section Words

variable {word : List Char} {i : Instruction}

/-- A character `c` is a letter if it is one in lowercase. -/
theorem isAlpha_of_toLower {c : Char} (h : c.toLower.isAlpha = true) : c.isAlpha = true := by
  unfold Char.toLower at h
  split at h
  · rename_i hupper
    unfold Char.isAlpha Char.isUpper
    rw [Bool.or_eq_true, decide_eq_true_eq]
    exact .inl hupper
  · exact h

/-- A `word` that names an instruction has letters only. -/
theorem isAlpha_of_named (h : Text.equalIgnoringAsciiCase i.name (String.ofList word) = true) :
    ∀ c ∈ word, c.isAlpha = true := by
  intro c hc
  rw [Text.equalIgnoringAsciiCase, beq_iff_eq, String.toList_ofList] at h
  have hmem : c.toLower ∈ i.name.toList.map Char.toLower := h ▸ List.mem_map_of_mem hc
  have hletters : (i.name.toList.map Char.toLower).all Char.isAlpha = true := by
    cases i <;> rfl
  exact isAlpha_of_toLower (List.all_eq_true.1 hletters _ hmem)

/-- A `word` that names an instruction has a first character. -/
theorem exists_cons_of_named
    (h : Text.equalIgnoringAsciiCase i.name (String.ofList word) = true) :
    ∃ c rest, word = c :: rest := by
  cases word with
  | nil => cases i <;> exact absurd h (by decide)
  | cons c rest => exact ⟨c, rest, rfl⟩

end Words

variable {line middle : List Char} {m : Marker}

/-- What stands between dashes is read by its first word. -/
theorem read?_eq_map {word rest : List Char}
    (hline : Text.trimSpace line = dashes ++ (middle ++ dashes))
    (hsplit : splitWord (Text.dropSpace middle) = (word, rest)) :
    read? line = (Instruction.read? (String.ofList word)).map fun i =>
      ⟨i, String.ofList (Text.trimSpace rest)⟩ := by
  rw [read?, middle?_eq_some.2 hline, Option.bind_eq_bind, Option.bind_some, hsplit]
  show (Instruction.read? (String.ofList word)).bind _ = _
  cases Instruction.read? (String.ofList word) <;> rfl

/-- White space in front of the `word` ends where the word starts. -/
theorem Reads.dropSpace_eq {word rest : List Char} (h : Reads middle word rest m) :
    Text.dropSpace middle = word ++ rest := by
  obtain ⟨blank, hblank, rfl⟩ := h.text
  obtain ⟨c, tail, rfl⟩ := exists_cons_of_named h.named
  have hletter := isAlpha_of_named h.named c List.mem_cons_self
  rw [Text.dropSpace_append hblank]
  have hfirst := Text.isSpace_of_isAlphanum (Bool.or_eq_true_iff.2 (.inl hletter))
  exact List.dropWhile_cons_of_neg (Bool.eq_false_iff.1 hfirst)

/-- A text that splits into the `word` and the `rest` is read as the marker. -/
theorem Reads.read?_eq {word rest : List Char} (h : Reads middle word rest m)
    (hline : Text.trimSpace line = dashes ++ (middle ++ dashes))
    (hsplit : splitWord (word ++ rest) = (word, rest)) : read? line = some m := by
  rw [← h.dropSpace_eq] at hsplit
  rw [read?_eq_map hline hsplit, Instruction.read?_eq_some.2 h.named, Option.map_some, ← h.label]

/-- A text between dashes that names an instruction is read as its marker. -/
theorem read?_of_namedIn (hline : Text.trimSpace line = dashes ++ (middle ++ dashes))
    (h : NamedIn middle m) : read? line = some m := by
  obtain ⟨word, rest, hreads, hstops, hrest⟩ := h
  refine hreads.read?_eq hline ?_
  rw [splitWord, Text.dropWhile_append_of_stops hreads.characters hstops,
    Text.takeWhile_append_of_stops hreads.characters hstops]
  cases rest with
  | nil => exact absurd rfl hrest
  | cons c rest => rfl

/-- A word between dashes that becomes the name of an instruction when its last character is cut off
is read as a marker with this character as the label. -/
theorem read?_of_cutFrom (hline : Text.trimSpace line = dashes ++ (middle ++ dashes))
    (h : CutFrom middle m) : read? line = some m := by
  obtain ⟨word, last, hreads, hlast⟩ := h
  -- The run of characters of words goes to the end, so its last one is given away for the label.
  refine hreads.read?_eq hline ?_
  rw [splitWord, List.dropWhile_append_of_pos hreads.characters, List.dropWhile_cons_of_pos hlast]
  simp

/-- The first word of `s` is whole if something else follows it, and it is cut by its last character
if it is all there is. -/
theorem splitWord_cases {s word rest : List Char} (h : splitWord s = (word, rest))
    (hword : word ≠ []) :
    (∀ c ∈ word, Text.isWord c = true) ∧
      (Stops Text.isWord rest ∧ rest ≠ [] ∨ ∃ last, rest = [last] ∧ Text.isWord last = true) := by
  unfold splitWord at h
  split at h
  · rename_i hwhole
    obtain ⟨rfl, rfl⟩ := Prod.mk.inj h
    have hall := List.dropWhile_eq_nil_iff.1 hwhole
    obtain ⟨early, last, rfl⟩ : ∃ early last, s = early ++ [last] := by
      refine (List.eq_nil_or_concat' s).resolve_left ?_
      rintro rfl
      exact hword rfl
    rw [List.dropLast_concat]
    refine ⟨fun c hc => hall c (List.mem_append_left _ hc), .inr ⟨last, by simp, ?_⟩⟩
    exact hall last (by simp)
  · rename_i hrest
    obtain ⟨rfl, rfl⟩ := Prod.mk.inj h
    exact ⟨fun _ hc => List.mem_takeWhile_imp hc, .inl ⟨Text.stops_dropWhile _ _, hrest⟩⟩

/-- If `line` is read as a marker, the text between its dashes names the instruction, or is a word
that does so when it is cut. -/
theorem exists_of_read?_eq_some (h : read? line = some m) :
    ∃ middle, Text.trimSpace line = dashes ++ (middle ++ dashes) ∧
      (NamedIn middle m ∨ CutFrom middle m) := by
  cases hmiddle : middle? (Text.trimSpace line) with
  | none =>
    rw [read?, hmiddle] at h
    cases h
  | some middle =>
    have hline := middle?_eq_some.1 hmiddle
    refine ⟨middle, hline, ?_⟩
    obtain ⟨blank, hblank, hs⟩ := Text.exists_eq_append_dropSpace middle
    obtain ⟨word, rest, hsplit⟩ : ∃ word rest, splitWord (Text.dropSpace middle) = (word, rest) :=
      ⟨_, _, rfl⟩
    rw [read?_eq_map hline hsplit] at h
    obtain ⟨i, hi, rfl⟩ := Option.map_eq_some_iff.1 h
    have htext := splitWord_append (Text.dropSpace middle)
    rw [hsplit] at htext
    rw [← htext] at hs
    have hname := Instruction.read?_eq_some.1 hi
    obtain ⟨c, tail, hword⟩ := exists_cons_of_named hname
    obtain ⟨hall, hcases⟩ := splitWord_cases hsplit (hword ▸ List.cons_ne_nil c tail)
    have hreads : Reads middle word rest ⟨i, String.ofList (Text.trimSpace rest)⟩ :=
      ⟨⟨blank, hblank, hs⟩, hall, hname, rfl⟩
    -- The two ways of splitting are the two ways of being a marker line.
    rcases hcases with ⟨hstops, hrest⟩ | ⟨last, rfl, hlast⟩
    · exact .inl ⟨word, rest, hreads, hstops, hrest⟩
    · exact .inr ⟨word, last, hreads, hlast⟩

end Marker

namespace Segment

/-- The text of a body has the line, up to white space at the end of the line. -/
def HasLine : Segment → List Char → Prop
  | marker _, _ => False
  | body _ _ text, line =>
    ∃ kept ∈ Text.lines text.toList, ∃ w, Text.isBlank w = true ∧ line = kept ++ w

section Lines

variable {active : Option Marker} {pending lines : List (List Char)} {line : List Char}
  {m : Marker}

/-- The body that `lines` make up has all of them that are not blank. -/
theorem hasLine_ofLines (hlines : ∀ other ∈ lines, '\n' ∉ other) (hline : line ∈ lines)
    (hblank : Text.isBlank line = false) : (ofLines active lines).HasLine line := by
  have hne : lines ≠ [] := List.ne_nil_of_mem hline
  obtain ⟨b, hb, htext⟩ := Text.exists_eq_dropSpaceRight_append (['\n'].intercalate lines)
  have hmem : line ∈ Text.lines (['\n'].intercalate lines) := by
    rw [Text.lines_intercalate_of_not_mem hne hlines]
    exact hline
  rw [htext] at hmem
  rw [ofLines, dropSpaceRight_joinLines hne, HasLine, String.toList_ofList]
  exact Text.exists_mem_lines_of_append hb hmem hblank

/-- Every marker `line` gives the segment of its marker. -/
theorem mem_split_of_read? (hline : line ∈ lines) (hread : Marker.read? line = some m) :
    marker m ∈ split active pending lines := by
  induction lines generalizing active pending with
  | nil => cases hline
  | cons first rest ih =>
    rw [split]
    rcases List.mem_cons.1 hline with rfl | hrest
    · rw [hread]
      exact List.mem_append_right _ List.mem_cons_self
    · cases Marker.read? first with
      | none => exact ih hrest
      | some _ => exact List.mem_append_right _ (List.mem_cons_of_mem _ (ih hrest))

/-- Every other `line` that is not blank is in a body. -/
theorem exists_hasLine_of_mem (hpending : ∀ other ∈ pending, '\n' ∉ other)
    (hlines : ∀ other ∈ lines, '\n' ∉ other)
    (hline : line ∈ pending ∨ line ∈ lines ∧ Marker.read? line = none)
    (hblank : Text.isBlank line = false) :
    ∃ segment ∈ split active pending lines, segment.HasLine line := by
  have hreverse : ∀ other ∈ pending.reverse, '\n' ∉ other := fun other hother =>
    hpending other (List.mem_reverse.1 hother)
  induction lines generalizing active pending with
  | nil =>
    have hmem : line ∈ pending := hline.resolve_right fun h => absurd h.1 List.not_mem_nil
    have hall : ¬ pending.all Text.isBlank = true := fun hall => by
      rw [List.all_eq_true.1 hall line hmem] at hblank
      cases hblank
    rw [split, if_neg hall]
    exact ⟨_, List.mem_singleton_self _, hasLine_ofLines hreverse (List.mem_reverse.2 hmem) hblank⟩
  | cons first rest ih =>
    obtain ⟨hfirst, hrest⟩ := List.forall_mem_cons.1 hlines
    rw [split]
    cases hread : Marker.read? first with
    | none =>
      -- The line becomes a pending one, and waits for the end of its body.
      have hnext : ∀ other ∈ first :: pending, '\n' ∉ other :=
        List.forall_mem_cons.2 ⟨hfirst, hpending⟩
      refine ih hnext hrest ?_ fun other hother => hnext other (List.mem_reverse.1 hother)
      rcases hline with hmem | ⟨hmem, hnone⟩
      · exact .inl (List.mem_cons_of_mem _ hmem)
      · rcases List.mem_cons.1 hmem with rfl | hlater
        · exact .inl List.mem_cons_self
        · exact .inr ⟨hlater, hnone⟩
    | some m =>
      rcases hline with hmem | ⟨hmem, hnone⟩
      · have hpending : pending.isEmpty = false :=
          List.isEmpty_eq_false_iff.2 (List.ne_nil_of_mem hmem)
        refine ⟨ofLines active pending.reverse, ?_,
          hasLine_ofLines hreverse (List.mem_reverse.2 hmem) hblank⟩
        simp [hpending]
      · rcases List.mem_cons.1 hmem with rfl | hlater
        · rw [hread] at hnone
          cases hnone
        · have hbehind : ∃ segment ∈ split (some m) [] rest, segment.HasLine line :=
            ih (fun _ h => absurd h List.not_mem_nil) hrest (.inr ⟨hlater, hnone⟩)
              fun _ h => absurd h List.not_mem_nil
          obtain ⟨segment, hsegment, hhas⟩ := hbehind
          exact ⟨segment, List.mem_append_right _ (List.mem_cons_of_mem _ hsegment), hhas⟩

/-- Every `segment` that the pass through the lines of `source` gives is one of its segments. -/
theorem mem_ofSource {segment : Segment} {source : String}
    (h : segment ∈ split none [] (Text.lines source.toList)) : segment ∈ ofSource source := by
  rw [ofSource]
  split
  · rename_i hnone
    rw [hnone] at h
    cases h
  · exact h

end Lines

end Segment

namespace Marker

/-- A `line` is a marker line exactly if it stands between dashes when it is trimmed and the text
between them names an instruction by its whole first word and goes on behind it, or is a word that
does so when its last character is cut off. A text has the marker of every marker line, and every
other line that is not blank is in one of its bodies. -/
theorem marks_iff (line : List Char) (m : Marker) :
    (read? line = some m ↔ ∃ middle,
      Text.trimSpace line = dashes ++ (middle ++ dashes) ∧
        (NamedIn middle m ∨ CutFrom middle m)) ∧
    ∀ source, line ∈ Text.lines source.toList →
      (read? line = some m → .marker m ∈ Segment.ofSource source) ∧
      (read? line = none → Text.isBlank line = false →
        ∃ segment ∈ Segment.ofSource source, segment.HasLine line) := by
  refine ⟨⟨exists_of_read?_eq_some, ?_⟩, fun source hline => ⟨fun hread => ?_, ?_⟩⟩
  · rintro ⟨middle, htrim, hnamed | hcut⟩
    · exact read?_of_namedIn htrim hnamed
    · exact read?_of_cutFrom htrim hcut
  · exact Segment.mem_ofSource (Segment.mem_split_of_read? hline hread)
  · intro hread hblank
    -- The line is not blank, so the body that holds it is not dropped.
    have hbody : ∃ segment ∈ Segment.split none [] (Text.lines source.toList),
        segment.HasLine line :=
      Segment.exists_hasLine_of_mem (fun _ h => absurd h List.not_mem_nil)
        (fun _ => Text.break_not_mem_of_mem_lines) (.inr ⟨hline, hread⟩) hblank
    obtain ⟨segment, hsegment, hhas⟩ := hbody
    exact ⟨segment, Segment.mem_ofSource hsegment, hhas⟩

/-- A line that names no instruction is in the body. -/
theorem marks_note :
    ∃ segment ∈ Segment.ofSource "--- NOTE a ---\nbody", segment.HasLine "--- NOTE a ---".toList :=
  ((marks_iff "--- NOTE a ---".toList ⟨.prompt, "a"⟩).2 "--- NOTE a ---\nbody" (by decide)).2
    (by decide) (by decide)

/-- A line without an instruction that is a marker line. -/
theorem marks_plural :
    read? "--- PROMPTS---".toList = some ⟨.prompt, "S"⟩ ∧
      ¬ ∃ middle m, Text.trimSpace "--- PROMPTS---".toList = dashes ++ (middle ++ dashes) ∧
        NamedIn middle m := by
  refine ⟨by decide, ?_⟩
  rintro ⟨middle, m, hline, word, rest, hreads, hstops, hrest⟩
  -- The whole text between the dashes is a word, so nothing is left behind it.
  have hmiddle : middle = " PROMPTS".toList :=
    Option.some.inj ((middle?_eq_some.2 hline).symm.trans (by decide))
  have hdrop := Text.dropWhile_append_of_stops hreads.characters hstops
  rw [← hreads.dropSpace_eq, hmiddle] at hdrop
  exact hrest (hdrop.symm.trans (by decide))

end Marker

end Promptbook
