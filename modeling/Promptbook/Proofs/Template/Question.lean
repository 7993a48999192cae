import Promptbook.Proofs.Template.Exchange

/-!
# Questions of a Rendering to its Host

A host can note what it is asked before it answers. Unlike an exchange, a question is noted whether
the host answers it or not, so the call that ends a rendering from outside is among the questions.

## Main definitions

* `Question`: a call that a rendering makes.
* `Host.watched`: the host that notes what it is asked.
* `questions`: what is noted while nodes are rendered.

## Main results

* `observe_watched`: noting does not disturb a rendering.
* `Dialogue.exists_question_of_error`: a dialogue that is broken off is broken off by one of its
  questions.
* `Dialogue.host_of_mem_questions`: an invariant of the host, from one call to all of them.
-/

namespace Promptbook.Template

variable {ε σ α : Type}

/-- A call that a rendering makes. -/
structure Question (σ : Type) where
  /-- The number of the directive. -/
  id : Nat
  /-- The values at paths at this point of the rendering. -/
  scope : Path → Option Value
  /-- The state of the host. -/
  host : σ

/-- The host `call`, which now notes the calls that are made to it. -/
def Host.watched (call : Host ε σ) : Host ε (σ × List (Question σ)) := fun id scope state =>
  match (call id scope).run state.1 with
  | .ok answer host => .ok answer (host, state.2 ++ [⟨id, scope, state.1⟩])
  | .error e host => .error e (host, state.2 ++ [⟨id, scope, state.1⟩])

/-- A host notes a call that is made to it, and does what it did before. -/
theorem run_watched (call : Host ε σ) (id : Nat) (scope : Path → Option Value) (host : σ)
    (noted : List (Question σ)) :
    (call.watched id scope).run (host, noted) =
      match (call id scope).run host with
      | .ok answer host' => .ok answer (host', noted ++ [⟨id, scope, host⟩])
      | .error e host' => .error e (host', noted ++ [⟨id, scope, host⟩]) := rfl

namespace Dialogue

/-- The questions of a dialogue to the host `call`. -/
def questions (call : Host ε σ) : Dialogue α → σ → List (Question σ)
  | finished _, _ => []
  | asks id scope next, host =>
    ⟨id, scope, host⟩ ::
      match (call id scope).run host with
      | .ok answer host' => (next answer).questions call host'
      | .error _ _ => []

/-- Holding a dialogue with a host that notes is holding it with the host itself, and noting the
questions. -/
theorem run_hold_watched (call : Host ε σ) (d : Dialogue α) (host : σ)
    (noted : List (Question σ)) :
    (d.hold call.watched).run (host, noted) =
      match (d.hold call).run host with
      | .ok outcome host' => .ok outcome (host', noted ++ d.questions call host)
      | .error e host' => .error e (host', noted ++ d.questions call host) := by
  induction d generalizing host noted with
  | finished outcome =>
    rw [run_hold_finished, run_hold_finished, questions, List.append_nil]
  | asks id scope next ih =>
    rw [run_hold_asks, run_hold_asks, questions, run_watched]
    cases (call id scope).run host with
    | error e host' => rfl
    | ok answer host' =>
      -- The rest of the dialogue goes on with one more question noted.
      have hrest := ih answer host' (noted ++ [⟨id, scope, host⟩])
      rw [List.append_assoc] at hrest
      exact hrest

/-- A dialogue that is broken off is broken off by one of its questions. -/
theorem exists_question_of_error {call : Host ε σ} {d : Dialogue α} {host last : σ} {e : ε}
    (h : (d.hold call).run host = .error e last) :
    ∃ question ∈ d.questions call host,
      (call question.id question.scope).run question.host = .error e last := by
  induction d generalizing host with
  | finished outcome => cases h
  | asks id scope next ih =>
    rw [run_hold_asks] at h
    rw [questions]
    cases hcall : (call id scope).run host with
    | error e' host' =>
      rw [hcall] at h
      cases h
      exact ⟨⟨id, scope, host⟩, List.mem_cons_self, hcall⟩
    | ok answer host' =>
      rw [hcall] at h
      obtain ⟨question, hmem, hquestion⟩ := ih answer h
      exact ⟨question, List.mem_cons_of_mem _ hmem, hquestion⟩

/-- If `holds` is preserved by every call that is answered, it holds wherever a question is
asked. -/
theorem host_of_mem_questions (holds : σ → Prop) {call : Host ε σ} {d : Dialogue α} {host : σ}
    (hstep : ∀ id scope before answer after, holds before →
      (call id scope).run before = .ok answer after → holds after)
    (hhost : holds host) : ∀ question ∈ d.questions call host, holds question.host := by
  induction d generalizing host with
  | finished outcome => exact nofun
  | asks id scope next ih =>
    rw [questions]
    refine List.forall_mem_cons.2 ⟨hhost, ?_⟩
    cases hcall : (call id scope).run host with
    | error e host' => exact nofun
    | ok answer host' => exact ih answer (hstep id scope host answer host' hhost hcall)

end Dialogue

section Nodes

variable (globals : Variables) (call : Host ε σ) (nodes : List Node) (host : σ)

/-- The calls that are made to a host while nodes are rendered. -/
def questions : List (Question σ) :=
  match observe ((renderNodes ⟨globals, call.watched⟩ [] nodes).run (.start (host, []))) with
  | .ok _ (_, noted) => noted
  | .error _ (_, noted) => noted

/-- What is noted are the questions of the dialogue `d` that stands for the nodes. -/
theorem questions_eq_of_dialogue {d : Dialogue (Ending Unit)}
    (hd : ∀ {ε σ : Type} (call : Host ε σ) (host : σ),
      observe ((renderNodes ⟨globals, call⟩ [] nodes).run (.start host)) = (d.hold call).run host) :
    questions globals call nodes host = d.questions call host := by
  unfold questions
  rw [hd, d.run_hold_watched]
  cases (d.hold call).run host <;> rfl

/-- Noting does not disturb a rendering: the host sees the same of it. -/
theorem observe_watched :
    observe ((renderNodes ⟨globals, call.watched⟩ [] nodes).run (.start (host, []))) =
      match observe ((renderNodes ⟨globals, call⟩ [] nodes).run (.start host)) with
      | .ok ending host' => .ok ending (host', questions globals call nodes host)
      | .error e host' => .error e (host', questions globals call nodes host) := by
  obtain ⟨d, hd⟩ := exists_dialogue globals nodes
  rw [hd, hd, questions_eq_of_dialogue globals call nodes host hd, d.run_hold_watched]
  cases (d.hold call).run host <;> rfl

end Nodes

end Promptbook.Template
