import Mathlib.Data.List.SplitBy
import Promptbook.Text.Runs

/-!
# Cutting a Text into Runs

There is one way to cut a text into pieces that are not empty, are all white space or have none, and
take turns. It can also be found by going through the text once, noting where the present piece has
begun as a number of bytes, and cutting the bytes there; these cuts never fall inside a character.

## Main definitions

* `IsRuns`: pieces that make up a text and take turns.
* `slice?`: the text between two places that are given as numbers of bytes.
* `RunScan`: a scan of a text that notes such places.
* `RunScan.Has`: what a scan has found of the text before it.

## Main results

* `isRuns_iff`: the pieces of a text that take turns are its runs.
* `RunScan.Has.step`: a scan goes past a character without cutting one.
* `runs_unique`: the runs of a text are the only such pieces, and what the scan finds.
-/

namespace Promptbook.Text

/-- The `pieces` make up the text `s`. None is empty, each is all white space or has none, and
neighbours differ in that. -/
structure IsRuns (s : List Char) (pieces : List (List Char)) : Prop where
  /-- The pieces make up the text. -/
  flatten : pieces.flatten = s
  /-- No piece is empty. -/
  ne_nil : ∀ piece ∈ pieces, piece ≠ []
  /-- A piece is all white space or has none. -/
  alike : ∀ piece ∈ pieces, ∀ c ∈ piece, ∀ d ∈ piece, isSpace c = isSpace d
  /-- Neighbours differ. -/
  turns : pieces.IsChain fun a b => ∀ c ∈ a, ∀ d ∈ b, isSpace c ≠ isSpace d

section Unique

variable {s : List Char} {pieces : List (List Char)}

/-- A character `c` in front of a piece of its kind belongs to that piece. -/
theorem IsRuns.cons_same {run : List Char} {rest : List (List Char)} {c d : Char}
    (h : IsRuns s ((d :: run) :: rest)) (hsame : isSpace c = isSpace d) :
    IsRuns (c :: s) ((c :: d :: run) :: rest) := by
  obtain ⟨halike, halikeRest⟩ := List.forall_mem_cons.1 h.alike
  have hrun : ∀ e ∈ c :: d :: run, isSpace e = isSpace d :=
    List.forall_mem_cons.2 ⟨hsame, fun e he => halike e he d List.mem_cons_self⟩
  refine ⟨congrArg (c :: ·) h.flatten, ?_, ?_, ?_⟩
  · exact List.forall_mem_cons.2 ⟨List.cons_ne_nil _ _, (List.forall_mem_cons.1 h.ne_nil).2⟩
  · refine List.forall_mem_cons.2 ⟨fun e he e' he' => ?_, halikeRest⟩
    rw [hrun e he, hrun e' he']
  · refine h.turns.imp_head fun {piece} hpiece => List.forall_mem_cons.2 ⟨?_, hpiece⟩
    rw [hsame]
    exact hpiece d List.mem_cons_self

/-- A character `c` in front of a piece of the other kind is a piece of its own. -/
theorem IsRuns.cons_other {run : List Char} {rest : List (List Char)} {c d : Char}
    (h : IsRuns s ((d :: run) :: rest)) (hother : isSpace c ≠ isSpace d) :
    IsRuns (c :: s) ([c] :: (d :: run) :: rest) := by
  have halike := (List.forall_mem_cons.1 h.alike).1
  refine ⟨congrArg (c :: ·) h.flatten, ?_, ?_, ?_⟩
  · exact List.forall_mem_cons.2 ⟨List.cons_ne_nil _ _, h.ne_nil⟩
  · refine List.forall_mem_cons.2 ⟨fun e he e' he' => ?_, h.alike⟩
    rw [List.mem_singleton.1 he, List.mem_singleton.1 he']
  · refine List.isChain_cons_cons.2 ⟨fun e he e' he' => ?_, h.turns⟩
    rw [List.mem_singleton.1 he, halike e' he' d List.mem_cons_self]
    exact hother

/-- A character `c` alone is a run. -/
theorem isRuns_singleton (c : Char) : IsRuns [c] [[c]] := by
  refine ⟨rfl, List.forall_mem_singleton.2 (List.cons_ne_nil c []), ?_, .singleton _⟩
  refine List.forall_mem_singleton.2 fun e he e' he' => ?_
  rw [List.mem_singleton.1 he, List.mem_singleton.1 he']

/-- The runs of `s` are pieces that take turns. -/
theorem isRuns_runs (s : List Char) : IsRuns s (runs s) := by
  induction s with
  | nil => exact ⟨rfl, nofun, nofun, .nil⟩
  | cons c s ih =>
    rw [runs]
    split
    · rename_i d run rest hruns
      rw [hruns] at ih
      split
      · rename_i hsame
        exact ih.cons_same hsame
      · rename_i hother
        exact ih.cons_other hother
    · -- No piece is empty, so that there is none behind the character.
      rename_i rest hnone
      have hnil : runs s = [] := by
        cases hruns : runs s with
        | nil => rfl
        | cons piece more =>
          obtain ⟨d, run, rfl⟩ :=
            List.exists_cons_of_ne_nil (ih.ne_nil piece (hruns ▸ List.mem_cons_self))
          exact absurd hruns (hnone d run more)
      obtain rfl : s = [] := by rw [← ih.flatten, hnil, List.flatten_nil]
      exact isRuns_singleton c

/-- Pieces that take turns are those in which `s` is split between characters of different kinds. -/
theorem IsRuns.splitBy_eq (h : IsRuns s pieces) :
    s.splitBy (fun c d => isSpace c == isSpace d) = pieces := by
  refine List.splitBy_eq_iff.2 ⟨h.flatten.symm, ?_, ?_, ?_⟩
  · exact fun hmem => h.ne_nil [] hmem rfl
  · intro piece hpiece
    refine (List.pairwise_of_forall_mem_list fun c hc d hd => ?_).isChain
    exact beq_iff_eq.2 (h.alike piece hpiece c hc d hd)
  · refine h.turns.imp_of_mem_imp fun a b ha hb hdiffer => ?_
    refine ⟨h.ne_nil a ha, h.ne_nil b hb, beq_eq_false_iff_ne.2 ?_⟩
    exact hdiffer _ (List.getLast_mem _) _ (List.head_mem _)

/-- The pieces of `s` that take turns are its runs. -/
theorem isRuns_iff : IsRuns s pieces ↔ pieces = runs s := by
  constructor
  · intro h
    rw [← h.splitBy_eq, (isRuns_runs s).splitBy_eq]
  · rintro rfl
    exact isRuns_runs s

/-- One more character `c` of the same kind goes on with the last run. -/
theorem IsRuns.extend {run : List Char} {c d : Char}
    (h : IsRuns (pieces.flatten ++ run) (pieces ++ [run])) (hd : d ∈ run)
    (hsame : isSpace d = isSpace c) :
    IsRuns (pieces.flatten ++ (run ++ [c])) (pieces ++ [run ++ [c]]) := by
  obtain ⟨hne, -⟩ := List.forall_mem_append.1 h.ne_nil
  obtain ⟨halike, halikeRun⟩ := List.forall_mem_append.1 h.alike
  have hrun : ∀ e ∈ run ++ [c], isSpace e = isSpace d := by
    refine List.forall_mem_append.2 ⟨fun e he => ?_, List.forall_mem_singleton.2 hsame.symm⟩
    exact halikeRun run List.mem_cons_self e he d hd
  obtain ⟨hturns, -, hlast⟩ := List.isChain_append.1 h.turns
  refine ⟨?_, ?_, ?_, ?_⟩
  · rw [List.flatten_append, List.flatten_singleton]
  · refine List.forall_mem_append.2 ⟨hne, List.forall_mem_singleton.2 ?_⟩
    exact List.append_ne_nil_of_right_ne_nil _ (List.cons_ne_nil c [])
  · refine List.forall_mem_append.2 ⟨halike, List.forall_mem_singleton.2 fun e he e' he' => ?_⟩
    rw [hrun e he, hrun e' he']
  -- The run before the last one differs from `d`, and so from all characters of the longer run.
  · refine List.isChain_append.2 ⟨hturns, .singleton _, ?_⟩
    intro a ha b hb e he e' he'
    obtain rfl : run ++ [c] = b := Option.some.inj hb
    rw [hrun e' he']
    exact hlast a ha run rfl e he d hd

/-- One more character `c` of the other kind is a run of its own. -/
theorem IsRuns.concat {run : List Char} {c d : Char}
    (h : IsRuns (pieces.flatten ++ run) (pieces ++ [run])) (hd : d ∈ run)
    (hother : isSpace d ≠ isSpace c) :
    IsRuns ((pieces ++ [run]).flatten ++ [c]) (pieces ++ [run] ++ [[c]]) := by
  refine ⟨?_, ?_, ?_, ?_⟩
  · rw [List.flatten_append, List.flatten_singleton]
  · exact List.forall_mem_append.2 ⟨h.ne_nil, List.forall_mem_singleton.2 (List.cons_ne_nil _ _)⟩
  · refine List.forall_mem_append.2 ⟨h.alike, List.forall_mem_singleton.2 fun e he e' he' => ?_⟩
    rw [List.mem_singleton.1 he, List.mem_singleton.1 he']
  · refine List.isChain_append.2 ⟨h.turns, .singleton _, ?_⟩
    intro a ha b hb e he e' he'
    obtain rfl : run = a := by simpa using ha
    obtain rfl : [c] = b := Option.some.inj hb
    rw [List.mem_singleton.1 he']
    have halike := h.alike run (List.mem_append_right _ List.mem_cons_self) e he d hd
    rwa [halike]

end Unique

/-- The part of `text` between the places `start` and `stop`, given as numbers of bytes, if both of
them stand between characters. -/
def slice? (text : String) (start stop : Nat) : Option String :=
  if String.Pos.Raw.isValid text ⟨start⟩ && String.Pos.Raw.isValid text ⟨stop⟩ then
    String.fromUTF8? (text.toByteArray.extract start stop)
  else none

/-- A part `token` of a text stands between two places that are between characters. -/
theorem slice?_append (before token after : String) :
    slice? (before ++ token ++ after) before.utf8ByteSize (before ++ token).utf8ByteSize =
      some token := by
  have hstart : String.Pos.Raw.isValid (before ++ token ++ after) ⟨before.utf8ByteSize⟩ = true := by
    rw [String.Pos.Raw.isValid_eq_true_iff, String.Pos.Raw.isValid_iff_exists_append]
    exact ⟨before, token ++ after, String.append_assoc, rfl⟩
  have hstop : String.Pos.Raw.isValid (before ++ token ++ after)
      ⟨(before ++ token).utf8ByteSize⟩ = true := by
    rw [String.Pos.Raw.isValid_eq_true_iff, String.Pos.Raw.isValid_iff_exists_append]
    exact ⟨before ++ token, after, rfl, rfl⟩
  have hbytes : (before ++ token ++ after).toByteArray.extract before.utf8ByteSize
      (before ++ token).utf8ByteSize = token.toByteArray := by
    rw [String.append_assoc, String.toByteArray_append, String.utf8ByteSize_append,
      ← String.size_toByteArray, ← Nat.add_zero before.toByteArray.size, Nat.add_assoc,
      ByteArray.extract_append_size_add, String.toByteArray_append, Nat.zero_add,
      ByteArray.extract_append_eq_left String.size_toByteArray.symm]
  rw [slice?, hstart, hstop, hbytes, Bool.and_self, if_pos rfl, String.fromUTF8?,
    dif_pos token.isValidUTF8]
  rfl

/-- A scan of a text from left to right. Places are noted as numbers of bytes. -/
structure RunScan where
  /-- The pieces that have been cut off. -/
  tokens : List String
  /-- Where the present piece begins. -/
  start : Nat
  /-- Where the next character begins. -/
  place : Nat
  /-- Whether the last character is white space, if there is one. -/
  last : Option Bool

namespace RunScan

/-- The scan before the first character. -/
def initial : RunScan := ⟨[], 0, 0, none⟩

/-- Go past the character `c`. If it differs in kind from the last one, a piece is cut off. -/
def step (text : String) (scan : RunScan) (c : Char) : Option RunScan :=
  if scan.last = some (!isSpace c) then
    (slice? text scan.start scan.place).map fun token =>
      ⟨scan.tokens ++ [token], scan.place, scan.place + c.utf8Size, some (isSpace c)⟩
  else some { scan with place := scan.place + c.utf8Size, last := some (isSpace c) }

/-- Cut off what is left at the end of `text`. -/
def finish (text : String) (scan : RunScan) : Option (List String) :=
  if scan.start < text.utf8ByteSize then
    (slice? text scan.start text.utf8ByteSize).map fun token => scan.tokens ++ [token]
  else some scan.tokens

/-- The pieces that a scan of `text` cuts off. -/
def tokens? (text : String) : Option (List String) :=
  (text.toList.foldlM (step text) initial).bind (finish text)

/-- What a scan has found of the text before it: it is at the start, or it has cut off all runs of
that text but the last. -/
inductive Has : RunScan → List Char → Prop where
  /-- The scan is at the start. -/
  | initial : Has initial []
  /-- The last `run` is still going on. -/
  | within {pieces : List (List Char)} {run : List Char} {c : Char}
    (hruns : IsRuns (pieces.flatten ++ run) (pieces ++ [run])) (hc : c ∈ run) :
    Has ⟨pieces.map String.ofList, (String.ofList pieces.flatten).utf8ByteSize,
      (String.ofList (pieces.flatten ++ run)).utf8ByteSize, some (isSpace c)⟩
      (pieces.flatten ++ run)

variable {text : String} {scan : RunScan} {s : List Char} {c : Char}

/-- A text with one more character `c` has the bytes of that character more. -/
theorem utf8ByteSize_concat (s : List Char) (c : Char) :
    (String.ofList (s ++ [c])).utf8ByteSize = (String.ofList s).utf8ByteSize + c.utf8Size := by
  rw [String.ofList_append, String.utf8ByteSize_append, ← String.singleton_eq_ofList,
    String.utf8ByteSize_singleton]

/-- The `run` that is going on is cut off without cutting a character. -/
theorem slice?_within {before run rest : List Char} (htext : text.toList = before ++ run ++ rest) :
    slice? text (String.ofList before).utf8ByteSize (String.ofList (before ++ run)).utf8ByteSize =
      some (String.ofList run) := by
  have hparts : text = String.ofList before ++ String.ofList run ++ String.ofList rest := by
    rw [← String.ofList_append, ← String.ofList_append, ← htext, String.ofList_toList]
  rw [hparts, String.ofList_append]
  exact slice?_append _ _ _

/-- A scan goes past the next character `c` of `text` without cutting one, and has found the runs of
the text up to there. -/
theorem Has.step {rest : List Char} (h : Has scan s) (htext : text.toList = s ++ c :: rest) :
    ∃ next, scan.step text c = some next ∧ Has next (s ++ [c]) := by
  cases h with
  | initial =>
    have hruns : IsRuns (([] : List (List Char)).flatten ++ [c]) ([] ++ [[c]]) := isRuns_singleton c
    have hwithin := Has.within hruns List.mem_cons_self
    rw [List.flatten_nil, utf8ByteSize_concat] at hwithin
    exact ⟨_, rfl, hwithin⟩
  | @within pieces run d hruns hd =>
    by_cases hsame : isSpace d = isSpace c
    · -- The run goes on.
      have hwithin := Has.within (hruns.extend hd hsame)
        (List.mem_append_right run (List.mem_singleton_self c))
      rw [← List.append_assoc, utf8ByteSize_concat] at hwithin
      exact ⟨_, if_neg (by simp [hsame]), hwithin⟩
    · -- The run ends here, and the character starts the next one.
      have hwithin := Has.within (hruns.concat hd hsame) (List.mem_singleton_self c)
      have hflatten : (pieces ++ [run]).flatten = pieces.flatten ++ run := by
        rw [List.flatten_append, List.flatten_singleton]
      rw [List.map_append, hflatten, utf8ByteSize_concat] at hwithin
      refine ⟨_, ?_, hwithin⟩
      rw [RunScan.step, if_pos (congrArg some (Bool.eq_not_of_ne hsame)), slice?_within htext]
      rfl

/-- What is left at the end is the last run. -/
theorem Has.finish (h : Has scan text.toList) :
    scan.finish text = some ((runs text.toList).map String.ofList) := by
  generalize hs : text.toList = s at h
  cases h with
  | initial =>
    obtain rfl : text = "" := String.toList_eq_nil_iff.1 hs
    rfl
  | @within pieces run c hruns hc =>
    have htext : text = String.ofList (pieces.flatten ++ run) := by rw [← hs, String.ofList_toList]
    have hleft : (String.ofList pieces.flatten).utf8ByteSize < text.utf8ByteSize := by
      rw [htext, String.ofList_append, String.utf8ByteSize_append]
      refine Nat.lt_add_of_pos_right (Nat.pos_of_ne_zero fun hzero => ?_)
      rw [String.utf8ByteSize_eq_zero_iff, String.ofList_eq_empty_iff] at hzero
      exact List.ne_nil_of_mem hc hzero
    have hall : text.toList = pieces.flatten ++ run ++ [] := by rw [hs, List.append_nil]
    have hslice := slice?_within hall
    rw [← htext] at hslice
    rw [RunScan.finish, if_pos hleft, hslice, ← isRuns_iff.1 hruns, List.map_append]
    rfl

/-- A scan goes on to the end of `text` without cutting a character. -/
theorem Has.foldlM {rest : List Char} (h : Has scan s) (htext : text.toList = s ++ rest) :
    ∃ last, rest.foldlM (RunScan.step text) scan = some last ∧ Has last text.toList := by
  induction rest generalizing scan s with
  | nil =>
    rw [List.append_nil] at htext
    exact ⟨scan, rfl, htext ▸ h⟩
  | cons c rest ih =>
    obtain ⟨next, hnext, hhas⟩ := h.step htext
    rw [List.foldlM_cons, hnext]
    exact ih hhas (by rw [htext, List.append_assoc, List.singleton_append])

/-- A scan of `text` finds its runs. -/
theorem tokens?_eq (text : String) :
    tokens? text = some ((runs text.toList).map String.ofList) := by
  have hall : text.toList = [] ++ text.toList := rfl
  obtain ⟨last, hlast, hhas⟩ := Has.initial.foldlM hall
  rw [tokens?, hlast, Option.bind_some, hhas.finish]

end RunScan

/-- Every `text` has one decomposition into pieces that are not empty, are all white space or have
none, and take turns. It consists of the runs of the text, and a scan from left to right that cuts
the bytes of the text finds it, so that no cut falls inside a character. -/
theorem runs_unique (text : String) :
    let tokens := (runs text.toList).map String.ofList
    (∀ pieces : List String, IsRuns text.toList (pieces.map String.toList) ↔ pieces = tokens) ∧
      RunScan.tokens? text = some tokens ∧ (tokens = [] ↔ text = "") := by
  intro tokens
  refine ⟨fun pieces => ?_, RunScan.tokens?_eq text, ?_⟩
  · rw [isRuns_iff]
    constructor
    -- Splitting by kind is the only such decomposition, so the texts of the pieces are the runs.
    · intro h
      show pieces = (runs text.toList).map String.ofList
      rw [← h, List.map_map]
      simp
    · rintro rfl
      rw [List.map_map]
      simp
  · rw [List.map_eq_nil_iff, ← String.toList_eq_nil_iff]
    constructor
    · intro h
      rw [← flatten_runs text.toList, h, List.flatten_nil]
    · intro h
      rw [h]
      rfl

/-- White space of several bytes is cut off as a whole. -/
example : RunScan.tokens? " né\u3000 à" = some [" ", "né", "\u3000 ", "à"] := by decide +kernel

end Promptbook.Text
