import Mathlib.Data.List.Chain
import Promptbook.Proofs.Run.Limit

/-!
# The Order of a Run

If no step jumps, a run executes the steps that generate text in the order of the list, each once,
wherever the deciding steps stand and however names are repeated. It leaves none of them out unless
it ends early. The place behind which a run goes on moves forward only, although the run itself goes
back and forth to deciding steps.

## Main definitions

* `Workflow.prompts`, `Workflow.promptsBehind`: the steps that generate text, all of them and those
  behind a place.
* `Workflow.ahead`, `Workflow.allowance`: the steps that generate text to which a run at a position
  still has to come, and how many steps it takes for them at most.
* `RunRecord.InOrder`: a run executes the steps that generate text in order.

## Main results

* `Workflow.next_cases`: where a step leads that does not jump.
* `Workflow.Aligned.next`: what one step preserves: the steps ahead are those ahead of the next
  position, and it takes fewer steps to come to them.
* `Journey.Walks.ahead_cases`: what a journey preserves.
* `Workflow.run_inOrder`: every run without jumps executes the steps in order.
-/

namespace Promptbook

variable {ω : Type} {steps : Workflow}

namespace Workflow

/-- The places of the steps that generate text, in the order of the list. -/
def prompts (steps : Workflow) : List (Fin steps.length) :=
  (List.finRange steps.length).filter fun i => (steps.step i).isPrompt

/-- The places of the steps behind `place` that generate text. -/
def promptsBehind (steps : Workflow) (place : Fin steps.length) : List (Fin steps.length) :=
  (List.finRange steps.length).filter fun i => place < i && (steps.step i).isPrompt

/-- The places of the steps that generate text among those of `visits`. -/
def promptsOf (visits : List (Visit steps)) : List (Fin steps.length) :=
  (visits.map Visit.step).filter fun i => (steps.step i).isPrompt

end Workflow

/-- The last of `visits` ends the run: it completes and its outputs say so, or it generates text and
fails. -/
def EndedByLast (visits : List (Visit steps)) : Prop :=
  ∃ last, visits.getLast? = some last ∧
    (last.Completes ∧ (steps.step last.step).Stops ∨
      ¬ last.Completes ∧ (steps.step last.step).isPrompt = true)

/-- A run with `visits` executes the steps that generate text in the order of the list. -/
structure RunRecord.InOrder (limit : Nat) (visits : List (Visit steps)) (record : RunRecord) :
    Prop where
  /-- The steps of the visits are announced, one after the other. -/
  announced : record.events.filter Event.announces =
    visits.map fun visit => (steps.step visit.step).announcement
  /-- The steps that generate text among those executed are the first ones in the list. -/
  isPrefix : Workflow.promptsOf visits <+: steps.prompts
  /-- They ascend, so that each is executed once. -/
  ascending : (Workflow.promptsOf visits).Pairwise (· < ·)
  /-- All of them are executed, unless a step ends the run or the limit is reported. -/
  complete : Workflow.promptsOf visits = steps.prompts ∨ EndedByLast visits ∨
    ∃ name, record.ReportsLimit limit visits name
  /-- The run begins with a step that generates text. -/
  begins : ∀ visit, visits.head? = some visit → (steps.step visit.step).isPrompt = true
  /-- Of two steps in a row one generates text, so that a deciding step follows one that does and is
  not followed by another deciding step. -/
  alternates : visits.IsChain fun visit next =>
    (steps.step visit.step).isPrompt = true ∨ (steps.step next.step).isPrompt = true
  /-- Two steps for each one that generates text are enough. -/
  enough : 2 * steps.prompts.length ≤ limit → ∀ name, ¬ record.ReportsLimit limit visits name

/-- In an ascending list `l`, the elements with the property `p` are the first one `i` and those
behind `i`. -/
theorem filter_eq_cons_of_find? {n : Nat} {l : List (Fin n)} (hl : l.Pairwise (· < ·))
    {p : Fin n → Bool} {i : Fin n} (h : l.find? p = some i) :
    l.filter p = i :: l.filter fun j => i < j && p j := by
  obtain ⟨hi, before, behind, rfl, hbefore⟩ := List.find?_eq_some_iff_append.1 h
  obtain ⟨-, hbehind, hlt⟩ := List.pairwise_append.1 hl
  -- What is found is the first, so nothing before it has the property, and what is greater is
  -- behind.
  have hnone : before.filter p = [] :=
    List.filter_eq_nil_iff.2 fun j hj => by simpa using hbefore j hj
  have hnone' : (before ++ [i]).filter (fun j => i < j && p j) = [] := by
    refine List.filter_eq_nil_iff.2 fun j hj => ?_
    rcases List.mem_append.1 hj with hj | hj
    · have hji := hlt j hj i List.mem_cons_self
      simp [Fin.not_lt.2 (Fin.le_of_lt hji)]
    · simp [List.mem_singleton.1 hj]
  have hall : behind.filter (fun j => i < j && p j) = behind.filter p := by
    refine List.filter_congr fun j hj => ?_
    simp [(List.pairwise_cons.1 hbehind).1 j hj]
  calc (before ++ i :: behind).filter p
      = i :: behind.filter p := by rw [List.filter_append, hnone, List.filter_cons_of_pos hi]; rfl
    _ = i :: (before ++ [i] ++ behind).filter (fun j => i < j && p j) := by
      rw [List.filter_append, hnone', hall]; rfl
    _ = _ := by rw [List.append_assoc]; rfl

namespace Workflow

/-- All steps that generate text are the first one `start` and those behind it. -/
theorem prompts_of_some {start : Fin steps.length} (hstart : steps.firstPrompt? = some start) :
    steps.prompts = start :: steps.promptsBehind start :=
  filter_eq_cons_of_find? (List.pairwise_lt_finRange _) hstart

/-- Without a first step that generates text there are none. -/
theorem prompts_of_none (hnone : steps.firstPrompt? = none) : steps.prompts = [] :=
  List.filter_eq_nil_iff.2 fun i _ => by simpa using first?_eq_none.1 hnone i

/-- The steps behind `place` that generate text are the next one `found` and those behind it. -/
theorem promptsBehind_of_some {place found : Fin steps.length}
    (hfound : steps.promptBehind? place = some found) :
    steps.promptsBehind place = found :: steps.promptsBehind found := by
  have hlt : place < found := by
    have hkind := eq_true_of_first? hfound
    simp only [Bool.and_eq_true, decide_eq_true_eq] at hkind
    exact hkind.1
  refine (filter_eq_cons_of_find? (List.pairwise_lt_finRange _) hfound).trans ?_
  refine congrArg (found :: ·) (List.filter_congr fun j _ => ?_)
  -- What stands behind the next one stands behind the place.
  by_cases hj : found < j
  · simp [hj, Fin.lt_trans hlt hj]
  · simp [hj]

/-- Without a next step that generates text there are none behind `place`. -/
theorem promptsBehind_of_none {place : Fin steps.length}
    (hnone : steps.promptBehind? place = none) : steps.promptsBehind place = [] :=
  List.filter_eq_nil_iff.2 fun i _ => by simpa using first?_eq_none.1 hnone i

/-- The steps that generate text are listed in ascending order. -/
theorem pairwise_prompts (steps : Workflow) : steps.prompts.Pairwise (· < ·) :=
  (List.pairwise_lt_finRange _).filter _

/-- The place behind which a run goes on from `position`. -/
def Position.anchor (position : Position steps) : Fin steps.length :=
  position.origin.getD position.step

/-- The steps that generate text to which a run still has to come, that at `position` included. -/
def ahead (position : Position steps) : List (Fin steps.length) :=
  [position.step].filter (fun i => (steps.step i).isPrompt) ++ steps.promptsBehind position.anchor

/-- How many steps a run takes at most for the steps ahead and the deciding steps behind them. -/
def allowance (position : Position steps) : Nat :=
  2 * (steps.promptsBehind position.anchor).length +
    if (steps.step position.step).isPrompt then 2 else 1

/-- If the step at `position` generates text, the run goes on behind that step. -/
def Aligned (position : Position steps) : Prop :=
  (steps.step position.step).isPrompt = true → position.origin = none

/-- Going on from `position` leads to the next step that generates text, or nowhere if there is
none. -/
theorem onward_cases (position : Position steps) :
    (steps.promptsBehind position.anchor = [] ∧ steps.onward position = .finish) ∨
      ∃ found, (steps.step found).isPrompt = true ∧
        steps.promptsBehind position.anchor = found :: steps.promptsBehind found ∧
        steps.onward position = .go ⟨found, none⟩ := by
  unfold onward
  cases hbehind : steps.promptBehind? (position.origin.getD position.step) with
  | none => exact .inl ⟨promptsBehind_of_none hbehind, rfl⟩
  | some found =>
    refine .inr ⟨found, ?_, promptsBehind_of_some hbehind, rfl⟩
    exact (Bool.and_eq_true_iff.1 (eq_true_of_first? hbehind)).2

/-- A step that does not jump stops, is chained to a deciding step, or goes on. -/
theorem next_cases {position : Position steps}
    (hjump : ∀ target, ¬ (steps.step position.step).Jumps target) :
    ((steps.step position.step).Stops ∧ steps.next position = .finish) ∨
      ((steps.step position.step).isPrompt = true ∧ ∃ found,
        (steps.step found).isPrompt = false ∧
        steps.next position = .go ⟨found, some position.step⟩) ∨
      steps.next position = steps.onward position := by
  by_cases hstop : (steps.step position.step).Stops
  · exact .inl ⟨hstop, next_of_stops hstop⟩
  · right
    cases hkind : (steps.step position.step).isPrompt with
    | false => exact .inr (next_of_decision hkind hjump hstop)
    | true =>
      cases hafter : steps.afterNamed? (steps.step position.step).name with
      | none => exact .inr (next_of_afterNamed?_eq_none hkind hafter)
      | some found =>
        exact .inl ⟨rfl, found, (afterNamed?_eq_some.1 hafter).1.1,
          next_of_afterNamed? hkind hafter⟩

section Aligned

variable {position position' : Position steps} (haligned : Aligned position)
  (hjump : ∀ target, ¬ (steps.step position.step).Jumps target)

include hjump

/-- A deciding step that does not jump leads to a step that generates text. -/
theorem isPrompt_of_next (hnext : steps.next position = .go position') :
    (steps.step position.step).isPrompt = true ∨
      (steps.step position'.step).isPrompt = true := by
  rcases next_cases hjump with ⟨-, hfinish⟩ | ⟨hkind, -⟩ | honward
  · cases hnext.symm.trans hfinish
  · exact .inl hkind
  · rcases onward_cases position with ⟨-, hfinish⟩ | ⟨found, hkind, -, hgo⟩
    · cases hnext.symm.trans (honward.trans hfinish)
    · cases hnext.symm.trans (honward.trans hgo)
      exact .inr hkind

/-- Where a run ends without a step that stops it, no step that generates text is behind. -/
theorem promptsBehind_of_finish (hnext : steps.next position = .finish)
    (hstop : ¬ (steps.step position.step).Stops) :
    steps.promptsBehind position.anchor = [] := by
  rcases next_cases hjump with ⟨hstops, -⟩ | ⟨-, found, -, hgo⟩ | honward
  · exact absurd hstops hstop
  · cases hnext.symm.trans hgo
  · rcases onward_cases position with ⟨hnone, -⟩ | ⟨found, -, -, hgo⟩
    · exact hnone
    · cases hnext.symm.trans (honward.trans hgo)

include haligned

/-- A step that does not jump leaves to the next position what is behind its anchor, and comes
closer to the end. -/
theorem Aligned.next (hnext : steps.next position = .go position') :
    Aligned position' ∧ ahead position' = steps.promptsBehind position.anchor ∧
      allowance position' < allowance position := by
  rcases next_cases hjump with ⟨-, hfinish⟩ | ⟨hkind, found, hfound, hgo⟩ | honward
  · cases hnext.symm.trans hfinish
  · -- The anchor of the deciding step is the step itself.
    cases hnext.symm.trans hgo
    have hanchor : position.anchor = position.step := by
      rw [Position.anchor, haligned hkind]
      rfl
    refine ⟨fun h => absurd (hfound.symm.trans h) Bool.false_ne_true, ?_, ?_⟩
    · rw [ahead, hanchor]
      simp [hfound, Position.anchor]
    · rw [allowance, allowance, hanchor]
      simp [hfound, hkind, Position.anchor]
  · rcases onward_cases position with ⟨-, hfinish⟩ | ⟨found, hkind, hbehind, hgo⟩
    · cases hnext.symm.trans (honward.trans hfinish)
    · -- The next step that generates text is its own anchor.
      cases hnext.symm.trans (honward.trans hgo)
      refine ⟨fun _ => rfl, ?_, ?_⟩
      · rw [ahead, hbehind]
        simp [hkind, Position.anchor]
      · rw [allowance, allowance, hbehind]
        simp only [hkind, Position.anchor, Option.getD_none, if_true, List.length_cons]
        split <;> omega

end Aligned

end Workflow

section Visits

variable {delivery : Delivery} {limit remaining : Nat} {position : Workflow.Position steps}
  {state : Variables} {journey : Journey steps}

/-- The steps that generate text among those of `visit` and `visits`, that of `visit` first. -/
theorem promptsOf_cons (visit : Visit steps) (visits : List (Visit steps)) :
    Workflow.promptsOf (visit :: visits) =
      [visit.step].filter (fun i => (steps.step i).isPrompt) ++ Workflow.promptsOf visits := by
  rw [Workflow.promptsOf, List.map_cons, ← List.singleton_append, List.filter_append]
  rfl

/-- What ends the rest of some visits ends them all. -/
theorem EndedByLast.cons {visits : List (Visit steps)} (h : EndedByLast visits)
    (visit : Visit steps) : EndedByLast (visit :: visits) := by
  obtain ⟨last, hlast, hends⟩ := h
  exact ⟨last, by rw [List.getLast?_cons, hlast]; rfl, hends⟩

namespace Journey

/-- A journey begins with the step at its position. -/
theorem Walks.step_of_head? (h : Walks delivery limit remaining position state journey)
    {visit : Visit steps} (hvisit : journey.visits.head? = some visit) :
    visit.step = position.step := by
  cases h with
  | limit => cases hvisit
  | failed | finished | lost | goesOn =>
    cases hvisit
    rfl

variable (hfree : ∀ i target, ¬ (steps.step i).Jumps target)

include hfree

/-- A journey without jumps executes the steps ahead in order, and leaves none of them out unless it
is ended by its last step or at its limit. -/
theorem Walks.ahead_cases (h : Walks delivery limit remaining position state journey)
    (haligned : Workflow.Aligned position) :
    Workflow.promptsOf journey.visits <+: Workflow.ahead position ∧
      (Workflow.promptsOf journey.visits = Workflow.ahead position ∨
        EndedByLast journey.visits ∨ ∃ name, journey.Overruns limit name) := by
  induction h with
  | limit => exact ⟨List.nil_prefix, .inr (.inr ⟨_, nofun, rfl⟩)⟩
  | @failed _ position _ _ e hexecutes =>
    refine ⟨?_, .inr (.inl ⟨_, rfl, .inr ⟨?_, ?_⟩⟩)⟩
    · exact List.prefix_append _ _
    · rintro ⟨_, hresult⟩
      cases hresult
    · -- Only a step that generates text can fail.
      cases hexecutes with
      | failure hkind => exact hkind
  | @finished _ position _ state' _ _ hnext =>
    by_cases hstop : (steps.step position.step).Stops
    · exact ⟨List.prefix_append _ _, .inr (.inl ⟨_, rfl, .inl ⟨⟨state', rfl⟩, hstop⟩⟩)⟩
    · have hnone := Workflow.promptsBehind_of_finish (hfree _) hnext hstop
      rw [Workflow.ahead, hnone]
      exact ⟨List.prefix_append _ _, .inl (List.append_nil _).symm⟩
  | @lost _ position _ _ _ target _ hnext =>
    -- No step names one to go to.
    rcases Workflow.next_cases (hfree position.step) with ⟨-, hfinish⟩ | ⟨-, _, -, hgo⟩ | honward
    · cases hnext.symm.trans hfinish
    · cases hnext.symm.trans hgo
    · rcases Workflow.onward_cases position with ⟨-, hfinish⟩ | ⟨_, -, -, hgo⟩
      · cases hnext.symm.trans (honward.trans hfinish)
      · cases hnext.symm.trans (honward.trans hgo)
  | @goesOn _ position position' _ state' signals journey _ hnext _ ih =>
    obtain ⟨haligned', hahead, -⟩ := haligned.next (hfree _) hnext
    obtain ⟨hbegins, hcases⟩ := ih haligned'
    show Workflow.promptsOf (.at position signals (.ok state') :: journey.visits) <+: _ ∧
      (Workflow.promptsOf (.at position signals (.ok state') :: journey.visits) = _ ∨ _)
    rw [promptsOf_cons, Workflow.ahead, ← hahead]
    refine ⟨(List.prefix_append_right_inj _).2 hbegins, ?_⟩
    rcases hcases with hall | hlast | ⟨name, hcomplete, hfailure⟩
    · exact .inl (congrArg _ hall)
    · exact .inr (.inl (hlast.cons _))
    · exact .inr (.inr ⟨name, List.forall_mem_cons.2 ⟨⟨state', rfl⟩, hcomplete⟩, hfailure⟩)

/-- A journey without jumps that may take as many steps as it needs for those ahead does not come to
its limit. -/
theorem Walks.not_overruns (h : Walks delivery limit remaining position state journey)
    (haligned : Workflow.Aligned position) (hle : Workflow.allowance position ≤ remaining)
    (name : String) : ¬ journey.Overruns limit name := by
  induction h with
  | limit position =>
    -- There is always a step at the position.
    rw [Workflow.allowance] at hle
    split at hle <;> omega
  | failed =>
    rintro ⟨hcomplete, -⟩
    obtain ⟨_, hresult⟩ := hcomplete _ List.mem_cons_self
    cases hresult
  | finished | lost =>
    rintro ⟨-, hfailure⟩
    cases hfailure
  | goesOn _ hnext _ ih =>
    obtain ⟨haligned', -, hlt⟩ := haligned.next (hfree _) hnext
    rintro ⟨hcomplete, hfailure⟩
    exact ih haligned' (by omega) ⟨(List.forall_mem_cons.1 hcomplete).2, hfailure⟩

/-- In a journey without jumps, one of two steps in a row generates text. -/
theorem Walks.alternates (h : Walks delivery limit remaining position state journey) :
    journey.visits.IsChain fun visit next =>
      (steps.step visit.step).isPrompt = true ∨ (steps.step next.step).isPrompt = true := by
  induction h with
  | limit => exact List.isChain_nil
  | failed | finished | lost => exact List.isChain_singleton _
  | goesOn _ hnext hrest ih =>
    refine List.isChain_cons.2 ⟨fun next hnext' => ?_, ih⟩
    rw [hrest.step_of_head? hnext']
    exact Workflow.isPrompt_of_next (hfree _) hnext

end Journey

end Visits

namespace Journey

/-- A journey without jumps from the first step `start` that generates text executes the steps in
order. -/
theorem Walks.inOrder {delivery : Delivery} {limit : Nat} {start : Fin steps.length}
    {state : Variables} {journey : Journey steps}
    (h : Walks delivery limit limit ⟨start, none⟩ state journey)
    (hstart : steps.firstPrompt? = some start)
    (hfree : ∀ i target, ¬ (steps.step i).Jumps target) :
    RunRecord.InOrder limit journey.visits ⟨journey.signals, journey.state⟩ := by
  have hkind : (steps.step start).isPrompt = true := Workflow.eq_true_of_first? hstart
  have haligned : Workflow.Aligned ⟨start, none⟩ := fun _ => rfl
  -- At the start all steps that generate text are ahead.
  have hahead : Workflow.ahead ⟨start, none⟩ = steps.prompts := by
    rw [Workflow.prompts_of_some hstart]
    simp [Workflow.ahead, Workflow.Position.anchor, hkind]
  obtain ⟨hbegins, hcases⟩ := h.ahead_cases hfree haligned
  rw [hahead] at hbegins hcases
  refine ⟨(h.limited hstart).announced, hbegins, steps.pairwise_prompts.sublist hbegins.sublist,
    ?_, ?_, h.alternates hfree, ?_⟩
  · exact hcases.imp_right (Or.imp_right fun ⟨name, hoverruns⟩ =>
      ⟨name, h.reportsLimit_iff.2 hoverruns⟩)
  · intro visit hvisit
    rw [h.step_of_head? hvisit]
    exact hkind
  · intro hle name hreports
    refine h.not_overruns hfree haligned ?_ name (h.reportsLimit_iff.1 hreports)
    rw [Workflow.prompts_of_some hstart, List.length_cons] at hle
    simp only [Workflow.allowance, Workflow.Position.anchor, Option.getD_none, hkind, if_true]
    omega

end Journey

/-- If no step in `steps` names one to go to, every run executes the steps that generate text in the
order of the list. -/
theorem Workflow.run_inOrder (setting : Setting ω) (steps : Workflow)
    (hfree : ∀ step ∈ steps, ∀ target, ¬ step.Jumps target) (state : Variables) (world : ω) :
    RunRecord.InOrder setting.configuration.run.maxSteps (steps.visits setting state world)
      (steps.run setting state world).1 := by
  cases hstart : steps.firstPrompt? with
  | none =>
    rw [visits_of_none setting state world hstart,
      run_eq_of_none setting state world (journey?_of_none setting state world hstart)]
    have hnone := prompts_of_none hstart
    refine ⟨rfl, List.nil_prefix, .nil, .inl hnone.symm, nofun, List.isChain_nil, ?_⟩
    rintro - name ⟨-, hevents⟩
    cases hevents
  | some start =>
    rw [visits_of_some setting state world hstart,
      run_eq_of_some setting state world (journey?_of_some setting state world hstart)]
    refine (Journey.walks_walk setting _ _ state world).inOrder hstart ?_
    exact fun i => hfree _ (steps.step_mem i)

/-- Steps without jumps of which two are chained to the same one, which stands before them. -/
def crossroads : Workflow :=
  [signpost "Reply" .after none, signpost "ask" .prompt none, signpost "reply" .prompt none,
    signpost "Re-ply!" .prompt none, signpost "end" .prompt none]

/-- With twice as many steps as generate text, the run of `crossroads` comes past all of them. -/
theorem run_inOrder_crossroads :
    (∀ step ∈ crossroads, ∀ target, ¬ step.Jumps target) ∧
      RunRecord.InOrder 8 (crossroads.visits (simulated 8) [] ())
        (crossroads.run (simulated 8) [] ()).1 ∧
      (crossroads.visits (simulated 8) [] ()).map (fun visit => visit.step.val) =
        [1, 2, 0, 3, 0, 4] := by
  have hsilent : ∀ step ∈ crossroads, step.output? Reserved.goto = none := by decide
  have hfree : ∀ step ∈ crossroads, ∀ target, ¬ step.Jumps target := by
    rintro step hstep target ⟨-, hgoto, -⟩
    cases (hsilent step hstep).symm.trans hgoto
  exact ⟨hfree, Workflow.run_inOrder (simulated 8) crossroads hfree [] (), by decide +kernel⟩

end Promptbook
