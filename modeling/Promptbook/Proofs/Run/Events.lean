import Promptbook.Proofs.Run.Walks

/-!
# What a Run Reports

The events of a run keep to a protocol. A workflow without a step that generates text only reports
that. Every other run reports the complete blocks of its steps one after the other, then maybe a
failure, and at last the state that it returns.

## Main definitions

* `CompleteBlock`, `IncompleteBlock`: the events of a step that completes, and those of a generation
  until it fails.
* `FailureTail`: the events with which a run ends early.
* `RunRecord.Protocol`: the two shapes that the events of a run have.

## Main results

* `Step.Executes.completeBlock`, `Step.Executes.incompleteBlock`: an execution reports a block.
* `Workflow.run_protocol`: every run keeps to the protocol, and pieces of text are only reported if
  this has been asked for.
-/

namespace Promptbook

variable {ω : Type} {delivery : Delivery} {step : Step}

/-- The events of `step` when it completes. -/
inductive CompleteBlock (delivery : Delivery) (step : Step) : List Event → Prop where
  /-- The step generates a text, of which pieces may be reported as `tokens` before the whole. -/
  | generation (hkind : step.isPrompt = true) (tokens : List String)
    (htokens : delivery = .blocking → tokens = []) (response : Response) :
    CompleteBlock delivery step
      (.stepBefore step.name :: tokens.map .stepResultStream ++ [.ofResponse response])
  /-- The step decides, and shows the `state` that it has seen. -/
  | decision (hkind : step.isPrompt = false) (state : Variables) :
    CompleteBlock delivery step [.stepAfter step.name none, .stepAfter step.name (some state)]

/-- The events of `step` when its generation fails, until it does. -/
inductive IncompleteBlock (delivery : Delivery) (step : Step) : List Event → Prop where
  /-- Pieces of the text may have been reported as `tokens`. -/
  | generation (hkind : step.isPrompt = true) (tokens : List String)
    (htokens : delivery = .blocking → tokens = []) :
    IncompleteBlock delivery step (.stepBefore step.name :: tokens.map .stepResultStream)

/-- The events with which a run ends early. -/
inductive FailureTail (delivery : Delivery) (limit : Nat) (steps : Workflow) :
    List Event → Prop where
  /-- The step would be one too many. -/
  | limit {step : Step} (hstep : step ∈ steps) :
    FailureTail delivery limit steps [.stepError (Error.stepLimit limit).message step.name]
  /-- The step goes to `target`, which does not exist. -/
  | missing {step : Step} (hstep : step ∈ steps) (target : String) :
    FailureTail delivery limit steps [.stepError (Error.stepNotFound target).message step.name]
  /-- The generation of the step fails with `e`. -/
  | generation {step : Step} (hstep : step ∈ steps) {events : List Event}
    (hblock : IncompleteBlock delivery step events) (e : Error) :
    FailureTail delivery limit steps (events ++ [.stepError e.message step.name])

/-- The shapes that the events of a run from `state` have. -/
inductive RunRecord.Protocol (delivery : Delivery) (limit : Nat) (steps : Workflow)
    (state : Variables) : RunRecord → Prop where
  /-- No step generates text, which is all that is reported. -/
  | unstarted {record : RunRecord} (hnone : ∀ step ∈ steps, step.isPrompt = false)
    (hevents : record.events = [.workflowDone state (some Error.noPromptStep.message)])
    (hstate : record.state = state) : Protocol delivery limit steps state record
  /-- Steps are executed, each with a block of events, and the state that is returned is reported at
  the end. -/
  | travelled {record : RunRecord} (hsome : ∃ step ∈ steps, step.isPrompt = true)
    {blocks : List (List Event)} {tail : List Event}
    (hblocks : ∀ block ∈ blocks, ∃ step ∈ steps, CompleteBlock delivery step block)
    (htail : tail = [] ∨ FailureTail delivery limit steps tail)
    (hevents : record.events = blocks.flatten ++ tail ++ [.workflowDone record.state none]) :
    Protocol delivery limit steps state record

/-- A step that completes reports a complete block. -/
theorem Step.Executes.completeBlock {state state' : Variables} {signals : List Signal}
    (h : step.Executes delivery state signals (.ok state')) :
    CompleteBlock delivery step (step.announcement :: signals.filterMap Signal.event?) := by
  cases h with
  | decision hkind =>
    rw [announcement, hkind]
    exact .decision hkind _
  | generation hkind htokens response =>
    obtain ⟨tokens, hsignals, hblocking⟩ := htokens
    rw [announcement, hkind, List.filterMap_append, hsignals]
    exact .generation hkind tokens hblocking response

/-- A step that fails has begun to report a block. -/
theorem Step.Executes.incompleteBlock {state : Variables} {signals : List Signal} {e : Error}
    (h : step.Executes delivery state signals (.error e)) :
    IncompleteBlock delivery step (step.announcement :: signals.filterMap Signal.event?) := by
  cases h with
  | failure hkind htokens =>
    obtain ⟨tokens, hsignals, hblocking⟩ := htokens
    rw [announcement, hkind, hsignals]
    exact .generation hkind tokens hblocking

/-- When text is reported as a whole, no pieces of it are among the events of a complete block. -/
theorem CompleteBlock.kind_ne_stepResultStream {events : List Event}
    (h : CompleteBlock .blocking step events) :
    ∀ event ∈ events, event.kind ≠ .stepResultStream := by
  cases h with
  | generation _ tokens htokens response =>
    rw [htokens rfl]
    intro event hevent
    simp only [List.map_nil, List.cons_append, List.nil_append, List.mem_cons, List.not_mem_nil,
      or_false] at hevent
    rcases hevent with rfl | rfl <;> nofun
  | decision _ state =>
    intro event hevent
    simp only [List.mem_cons, List.not_mem_nil, or_false] at hevent
    rcases hevent with rfl | rfl <;> nofun

/-- When text is reported as a whole, no pieces of it are among the events of a failure. -/
theorem FailureTail.kind_ne_stepResultStream {limit : Nat} {steps : Workflow}
    {events : List Event} (h : FailureTail .blocking limit steps events) :
    ∀ event ∈ events, event.kind ≠ .stepResultStream := by
  cases h with
  | limit | missing =>
    intro event hevent
    rw [List.mem_singleton.1 hevent]
    nofun
  | generation _ hblock e =>
    obtain ⟨_, tokens, htokens⟩ := hblock
    rw [htokens rfl]
    intro event hevent
    simp only [List.map_nil, List.cons_append, List.nil_append, List.mem_cons, List.not_mem_nil,
      or_false] at hevent
    rcases hevent with rfl | rfl <;> nofun

/-- When text is reported as a whole, a run that keeps to the protocol reports no pieces of it. -/
theorem RunRecord.Protocol.kind_ne_stepResultStream {limit : Nat} {steps : Workflow}
    {state : Variables} {record : RunRecord} (h : record.Protocol .blocking limit steps state) :
    ∀ event ∈ record.events, event.kind ≠ .stepResultStream := by
  cases h with
  | unstarted _ hevents _ =>
    intro event hevent
    rw [hevents] at hevent
    rw [List.mem_singleton.1 hevent]
    nofun
  | travelled _ hblocks htail hevents =>
    intro event hevent
    rw [hevents, List.mem_append, List.mem_append] at hevent
    rcases hevent with (hblock | htailed) | hdone
    · obtain ⟨block, hmem, hevent⟩ := List.mem_flatten.1 hblock
      obtain ⟨_, -, hcomplete⟩ := hblocks block hmem
      exact hcomplete.kind_ne_stepResultStream event hevent
    · rcases htail with rfl | hfailure
      · exact absurd htailed List.not_mem_nil
      · exact hfailure.kind_ne_stepResultStream event htailed
    · rw [List.mem_singleton.1 hdone]
      nofun

namespace Journey

variable {steps : Workflow} {limit remaining : Nat} {position : Workflow.Position steps}
  {state : Variables} {journey : Journey steps}

/-- A visit of a step that completes reports a complete block of a step of the workflow. -/
theorem completeBlock_at {state state' : Variables} {signals : List Signal}
    (h : (steps.step position.step).Executes delivery state signals (.ok state')) :
    ∃ step ∈ steps, CompleteBlock delivery step (Visit.at position signals (.ok state')).events :=
  ⟨steps.step position.step, steps.step_mem position.step, h.completeBlock⟩

/-- A journey reports complete blocks and then, if it ends early, a failure. -/
theorem Walks.reports_eq (h : Walks delivery limit remaining position state journey) :
    ∃ (blocks : List (List Event)) (tail : List Event),
      (∀ block ∈ blocks, ∃ step ∈ steps, CompleteBlock delivery step block) ∧
      (tail = [] ∨ FailureTail delivery limit steps tail) ∧
      journey.reports = blocks.flatten ++ tail := by
  induction h with
  | limit position state =>
    -- Nothing has been executed, so the error stands alone.
    refine ⟨[], _, nofun, .inr (.limit (steps.step_mem position.step)), ?_⟩
    rw [reports_ended]
    rfl
  | @failed _ position _ _ e hexecutes =>
    -- What the step has reported is part of the tail.
    refine ⟨[], _, nofun,
      .inr (.generation (steps.step_mem position.step) hexecutes.incompleteBlock e), ?_⟩
    rw [reports_after, reports_ended]
    rfl
  | @finished _ position _ state' signals hexecutes =>
    refine ⟨[(Visit.at position signals (.ok state')).events], [],
      List.forall_mem_singleton.2 (completeBlock_at hexecutes), .inl rfl, ?_⟩
    rw [reports_after, reports_ended, List.flatten_singleton]
    rfl
  | @lost _ position _ state' signals target hexecutes =>
    refine ⟨[(Visit.at position signals (.ok state')).events], _,
      List.forall_mem_singleton.2 (completeBlock_at hexecutes),
      .inr (.missing (steps.step_mem position.step) target), ?_⟩
    rw [reports_after, reports_ended, List.flatten_singleton]
    rfl
  | @goesOn _ position _ _ state' signals _ hexecutes _ _ ih =>
    -- The block of the step comes before those of the rest.
    obtain ⟨blocks, tail, hblocks, htail, hreports⟩ := ih
    refine ⟨(Visit.at position signals (.ok state')).events :: blocks, tail,
      List.forall_mem_cons.2 ⟨completeBlock_at hexecutes, hblocks⟩, htail, ?_⟩
    rw [reports_after, hreports, List.flatten_cons, List.append_assoc]

end Journey

/-- Every run keeps to the protocol, and if text is reported as a whole, no pieces of it are
reported. -/
theorem Workflow.run_protocol (setting : Setting ω) (steps : Workflow) (state : Variables)
    (world : ω) :
    (steps.run setting state world).1.Protocol setting.delivery
        setting.configuration.run.maxSteps steps state ∧
      (setting.delivery = .blocking →
        ∀ event ∈ (steps.run setting state world).1.events, event.kind ≠ .stepResultStream) := by
  have hprotocol : (steps.run setting state world).1.Protocol setting.delivery
      setting.configuration.run.maxSteps steps state := by
    rcases steps.journey?_cases setting state world with
      ⟨hnone, hjourney⟩ | ⟨start, journey, hstart, hjourney, hwalks⟩
    · rw [run_eq_of_none setting state world hjourney]
      refine .unstarted ?_ rfl rfl
      intro step hstep
      obtain ⟨i, rfl⟩ := exists_step hstep
      exact first?_eq_none.1 hnone i
    · rw [run_eq_of_some setting state world hjourney]
      obtain ⟨blocks, tail, hblocks, htail, hreports⟩ := hwalks.reports_eq
      refine .travelled ⟨_, steps.step_mem start, eq_true_of_first? hstart⟩ hblocks htail ?_
      show journey.signals.filterMap Signal.event? = _
      rw [journey.filterMap_event?_signals, hreports]
  -- The second part is read off the shapes.
  refine ⟨hprotocol, fun hblocking => ?_⟩
  rw [hblocking] at hprotocol
  exact hprotocol.kind_ne_stepResultStream

end Promptbook
