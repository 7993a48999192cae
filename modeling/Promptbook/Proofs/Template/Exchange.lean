import Promptbook.Proofs.Template.Dialogue

/-!
# Exchanges between a Rendering and its Host

A host can note the calls that it answers, each with the state that it was in before and after. This
does not disturb the rendering, and what has been noted accounts for everything that the rendering
did to the host: every exchange begins in the state in which the one before it ended.

## Main definitions

* `Exchange`: a call that has been answered.
* `Host.noting`: the host that notes what it answers.
* `Exchange.Links`: exchanges that lead from one state of the host to another, one after another.
* `exchanges`: what is noted while nodes are rendered.

## Main results

* `observe_noting`: noting does not disturb a rendering.
* `links_exchanges`: what is noted leads from the state in which the host starts to the one in which
  the rendering leaves it.
* `links_exchanges_of_observe_error`: a rendering that is ended from outside is ended by a call in
  the state to which the exchanges before lead.
-/

namespace Promptbook.Template

variable {ε σ α : Type}

/-- A call that a host has answered. -/
structure Exchange (σ : Type) where
  /-- The number of the directive. -/
  id : Nat
  /-- The values at paths when the directive was called. -/
  scope : Path → Option Value
  /-- The state of the host before the call. -/
  before : σ
  /-- The text for the place of the directive, if there is one, and the published variables. -/
  answer : Option String × Variables
  /-- The state of the host after the call. -/
  after : σ

/-- The host `call`, which now notes the calls that it answers. -/
def Host.noting (call : Host ε σ) : Host ε (σ × List (Exchange σ)) := fun id scope state =>
  match (call id scope).run state.1 with
  | .ok answer host => .ok answer (host, state.2 ++ [⟨id, scope, state.1, answer, host⟩])
  | .error e host => .error e (host, state.2)

/-- A host notes a call that it answers, and answers as before. -/
theorem run_noting (call : Host ε σ) (id : Nat) (scope : Path → Option Value) (host : σ)
    (noted : List (Exchange σ)) :
    (call.noting id scope).run (host, noted) =
      match (call id scope).run host with
      | .ok answer host' => .ok answer (host', noted ++ [⟨id, scope, host, answer, host'⟩])
      | .error e host' => .error e (host', noted) := rfl

/-- The exchanges lead from one state of the host `call` to another: each of them is a call that the
host answers in that way, and the next one begins where it ends. -/
inductive Exchange.Links (call : Host ε σ) : σ → List (Exchange σ) → σ → Prop
  /-- Without exchanges the host stays as it is. -/
  | nil {host : σ} : Links call host [] host
  /-- An exchange, and those that follow it. -/
  | cons {id : Nat} {scope : Path → Option Value} {host next last : σ}
      {answer : Option String × Variables} {rest : List (Exchange σ)}
      (hcall : (call id scope).run host = .ok answer next) (hrest : Links call next rest last) :
      Links call host (⟨id, scope, host, answer, next⟩ :: rest) last

/-- Exchanges can be cut between any two of them. -/
theorem Exchange.Links.split {call : Host ε σ} {first last : σ} {early late : List (Exchange σ)}
    (h : Links call first (early ++ late) last) :
    ∃ host, Links call first early host ∧ Links call host late last := by
  induction early generalizing first with
  | nil => exact ⟨first, .nil, h⟩
  | cons exchange early ih =>
    obtain _ | ⟨hcall, hrest⟩ := h
    obtain ⟨host, hearly, hlate⟩ := ih hrest
    exact ⟨host, .cons hcall hearly, hlate⟩

/-- Exchanges lead to the state after the last one of them. -/
theorem Exchange.Links.eq_getLast {call : Host ε σ} {first last : σ} {exchanges : List (Exchange σ)}
    (h : Links call first exchanges last) :
    last = (exchanges.getLast?.map Exchange.after).getD first := by
  induction h with
  | nil => rfl
  | @cons id scope host next last answer rest hcall hrest ih =>
    rw [List.getLast?_cons, Option.map_some, Option.getD_some, ih]
    cases rest.getLast? <;> rfl

namespace Dialogue

/-- The exchanges of a dialogue with the host `call`. -/
def exchanges (call : Host ε σ) : Dialogue α → σ → List (Exchange σ)
  | finished _, _ => []
  | asks id scope next, host =>
    match (call id scope).run host with
    | .ok answer host' => ⟨id, scope, host, answer, host'⟩ :: (next answer).exchanges call host'
    | .error _ _ => []

/-- Holding a dialogue with a host that notes is holding it with the host itself, and noting the
exchanges. -/
theorem run_hold_noting (call : Host ε σ) (d : Dialogue α) (host : σ)
    (noted : List (Exchange σ)) :
    (d.hold call.noting).run (host, noted) =
      match (d.hold call).run host with
      | .ok outcome host' => .ok outcome (host', noted ++ d.exchanges call host)
      | .error e host' => .error e (host', noted ++ d.exchanges call host) := by
  induction d generalizing host noted with
  | finished outcome =>
    rw [run_hold_finished, run_hold_finished, exchanges, List.append_nil]
  | asks id scope next ih =>
    rw [run_hold_asks, run_hold_asks, exchanges, run_noting]
    cases (call id scope).run host with
    | error e host' => simp only [List.append_nil]
    | ok answer host' =>
      -- The rest of the dialogue goes on with one more exchange noted.
      have hrest := ih answer host' (noted ++ [⟨id, scope, host, answer, host'⟩])
      rw [List.append_assoc] at hrest
      exact hrest

/-- The exchanges of a dialogue that comes to its end lead to the state that it leaves. -/
theorem links_exchanges {call : Host ε σ} {d : Dialogue α} {host last : σ} {outcome : α}
    (h : (d.hold call).run host = .ok outcome last) :
    Exchange.Links call host (d.exchanges call host) last := by
  induction d generalizing host with
  | finished outcome' =>
    cases h
    exact .nil
  | asks id scope next ih =>
    rw [run_hold_asks] at h
    rw [exchanges]
    cases hcall : (call id scope).run host with
    | error e host' =>
      rw [hcall] at h
      cases h
    | ok answer host' =>
      rw [hcall] at h
      exact .cons hcall (ih answer h)

/-- A dialogue that does not come to its end is broken off by a call, in the state to which its
exchanges lead. -/
theorem links_exchanges_of_error {call : Host ε σ} {d : Dialogue α} {host last : σ} {e : ε}
    (h : (d.hold call).run host = .error e last) :
    ∃ id scope before, Exchange.Links call host (d.exchanges call host) before ∧
      (call id scope).run before = .error e last := by
  induction d generalizing host with
  | finished outcome => cases h
  | asks id scope next ih =>
    rw [run_hold_asks] at h
    rw [exchanges]
    cases hcall : (call id scope).run host with
    | error e' host' =>
      rw [hcall] at h
      cases h
      exact ⟨id, scope, host, .nil, hcall⟩
    | ok answer host' =>
      rw [hcall] at h
      obtain ⟨id', scope', before, hlinks, hlast⟩ := ih answer h
      exact ⟨id', scope', before, .cons hcall hlinks, hlast⟩

end Dialogue

section Nodes

variable (globals : Variables) (call : Host ε σ) (nodes : List Node) (host : σ)

/-- The calls that a host answers while nodes are rendered. -/
def exchanges : List (Exchange σ) :=
  match observe ((renderNodes ⟨globals, call.noting⟩ [] nodes).run (.start (host, []))) with
  | .ok _ (_, noted) => noted
  | .error _ (_, noted) => noted

/-- What is noted are the exchanges of the dialogue `d` that stands for the nodes. -/
theorem exchanges_eq_of_dialogue {d : Dialogue (Ending Unit)}
    (hd : ∀ {ε σ : Type} (call : Host ε σ) (host : σ),
      observe ((renderNodes ⟨globals, call⟩ [] nodes).run (.start host)) = (d.hold call).run host) :
    exchanges globals call nodes host = d.exchanges call host := by
  unfold exchanges
  rw [hd, d.run_hold_noting]
  cases (d.hold call).run host <;> rfl

/-- Noting does not disturb a rendering: the host sees the same of it. -/
theorem observe_noting :
    observe ((renderNodes ⟨globals, call.noting⟩ [] nodes).run (.start (host, []))) =
      match observe ((renderNodes ⟨globals, call⟩ [] nodes).run (.start host)) with
      | .ok ending host' => .ok ending (host', exchanges globals call nodes host)
      | .error e host' => .error e (host', exchanges globals call nodes host) := by
  obtain ⟨d, hd⟩ := exists_dialogue globals nodes
  rw [hd, hd, exchanges_eq_of_dialogue globals call nodes host hd, d.run_hold_noting]
  cases (d.hold call).run host <;> rfl

variable {globals call nodes host}

/-- What is noted leads from the state in which the host starts to the one in which the rendering
leaves it, unless a call ends the rendering. -/
theorem links_exchanges {ending : Ending Unit} {last : σ}
    (h : observe ((renderNodes ⟨globals, call⟩ [] nodes).run (.start host)) = .ok ending last) :
    Exchange.Links call host (exchanges globals call nodes host) last := by
  obtain ⟨d, hd⟩ := exists_dialogue globals nodes
  rw [hd] at h
  rw [exchanges_eq_of_dialogue globals call nodes host hd]
  exact Dialogue.links_exchanges h

/-- A rendering that is ended from outside is ended by a call, in the state to which what is noted
leads. -/
theorem links_exchanges_of_observe_error {e : ε} {last : σ}
    (h : observe ((renderNodes ⟨globals, call⟩ [] nodes).run (.start host)) = .error e last) :
    ∃ id scope before, Exchange.Links call host (exchanges globals call nodes host) before ∧
      (call id scope).run before = .error e last := by
  obtain ⟨d, hd⟩ := exists_dialogue globals nodes
  rw [hd] at h
  rw [exchanges_eq_of_dialogue globals call nodes host hd]
  exact Dialogue.links_exchanges_of_error h

end Nodes

end Promptbook.Template
