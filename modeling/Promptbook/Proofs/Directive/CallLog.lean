import Promptbook.Proofs.Directive.Pass

/-!
# Logs of Calls

The calls that a rendering makes are noted in a log that is kept beside the world. The log does not
disturb a rendering: without it, the same is rendered and the same world is left.

## Main definitions

* `Directive.logged`, `Registry.logged`: the same directives, with their calls noted.
* `Prepared.callsInPlace`: the calls that a dialogue makes when all directives run in place.
* `awaitedInPlace`: how many awaited calls rendering a body in place makes.

## Main results

* `renderInPlace_logged`: rendering in place with a log is rendering in place, and the log gets the
  calls of the dialogue.
-/

namespace Promptbook

open Template (Dialogue Ending)

variable {ω : Type}

/-- A call that has been made. -/
structure LoggedCall where
  /-- Whether the directive is awaited. -/
  awaited : Bool
  /-- The call. -/
  call : Call

/-- The calls that have been made, the first one first. -/
abbrev CallLog := List LoggedCall

/-- The `directive` with its calls noted in a log beside the world. -/
def Directive.logged (directive : Directive ω) : Directive (ω × CallLog) where
  awaited := directive.awaited
  run call world :=
    let (reply, after) := directive.run call world.1
    (reply, after, world.2 ++ [⟨directive.awaited, call⟩])

/-- A call with a log does what the call does without it, and is noted at the end of `log`. -/
theorem Directive.run_logged (directive : Directive ω) {call : Call} {world after : ω}
    {reply : Reply} (log : CallLog) (hreply : directive.run call world = (reply, after)) :
    directive.logged.run call (world, log) =
      (reply, after, log ++ [⟨directive.awaited, call⟩]) := by
  simp only [logged, hreply]

/-- The directives of `registry` with their calls noted in a log. -/
def Registry.logged (registry : Registry ω) : Registry (ω × CallLog) :=
  registry.map fun entry => (entry.1, entry.2.logged)

/-- How many awaited calls rendering `body` in place makes. -/
def awaitedInPlace (registry : Registry ω) (step : String) (inputs : Variables) (body : String)
    (world : ω) : Nat :=
  let (_, _, log) := renderInPlace registry.logged step inputs body (world, [])
  log.countP LoggedCall.awaited

/-- The body `prepared` with the calls of its directives noted in a log. -/
def Prepared.logged (prepared : Prepared ω) : Prepared (ω × CallLog) where
  directives := prepared.directives.map fun entry => (entry.1, entry.2.logged)
  nodes := prepared.nodes
  globals := prepared.globals

/-- The state `pass` with a `log` beside its world. -/
def Pass.withLog (pass : Pass ω) (log : CallLog) : Pass (ω × CallLog) where
  outputs := pass.outputs
  fieldIndexes := pass.fieldIndexes
  visits := pass.visits
  world := (pass.world, log)

@[simp]
theorem Pass.outputs_withLog (pass : Pass ω) (log : CallLog) :
    (pass.withLog log).outputs = pass.outputs := rfl

namespace Registry

/-- Noting calls does not change which directive there is under `name`. -/
theorem value?_logged (registry : Registry ω) (name : String) :
    Fields.value? registry.logged name = (Fields.value? registry name).map Directive.logged := by
  induction registry with
  | nil => rfl
  | cons entry rest ih =>
    rw [logged, List.map_cons, Fields.value?_cons, Fields.value?_cons]
    by_cases h : entry.1 = name
    · rw [if_pos h, if_pos h]
      rfl
    · rw [if_neg h, if_neg h]
      exact ih

theorem has_logged (registry : Registry ω) : Fields.has registry.logged = Fields.has registry := by
  funext name
  rw [Fields.has, Fields.has, value?_logged, Option.isSome_map]

end Registry

/-- The directives of `occurrences` are the same with and without a log. -/
theorem filterMap_value?_logged (registry : Registry ω) (occurrences : List Occurrence) :
    (occurrences.filterMap fun o =>
        (Fields.value? registry.logged o.name).map fun directive => (o, directive)) =
      (occurrences.filterMap fun o =>
        (Fields.value? registry o.name).map fun directive => (o, directive)).map
          fun entry => (entry.1, entry.2.logged) := by
  rw [List.map_filterMap]
  congr 1
  funext o
  rw [Registry.value?_logged, Option.map_map, Option.map_map]
  rfl

/-- A function `f` of errors leaves the result `a` as it is. -/
theorem mapError_ok {ε ε' α : Type} (f : ε → ε') (a : α) :
    (Except.ok a : Except ε α).mapError f = .ok a := rfl

/-- A function `f` of errors is applied to the error `e`. -/
theorem mapError_error {ε ε' α : Type} (f : ε → ε') (e : ε) :
    (Except.error e : Except ε α).mapError f = .error (f e) := rfl

theorem eq_ok_of_mapError {ε ε' α : Type} {f : ε → ε'} {result : Except ε α} {a : α}
    (h : result.mapError f = .ok a) : result = .ok a := by
  cases result with
  | error e => cases h
  | ok b =>
    cases h
    rfl

theorem exists_of_isOk {ε α : Type} {result : Except ε α} (h : result.isOk = true) :
    ∃ a, result = .ok a := by
  cases result with
  | error e => cases h
  | ok a => exact ⟨a, rfl⟩

/-- A `body` is read the same with and without a log. -/
theorem prepare_logged (registry : Registry ω) (inputs : Variables) (body : String) :
    prepare registry.logged inputs body = (prepare registry inputs body).map Prepared.logged := by
  unfold prepare
  rw [Registry.has_logged]
  cases extract (Fields.has registry) body with
  | error found => rfl
  | ok extraction =>
    simp only [mapError_ok, bind, Except.bind, filterMap_value?_logged, List.map_map]
    -- From here on only the names of the directives matter, which are the same.
    generalize extraction.occurrences.filterMap _ = directives
    have hnames : (Prod.fst ∘ fun entry : Occurrence × Directive ω => (entry.1, entry.2.logged)) =
        Prod.fst := rfl
    rw [hnames]
    cases Template.readTemplate (hostTags (directives.map Prod.fst).toArray)
      (String.ofList extraction.template) with
    | error e => rfl
    | ok nodes =>
      cases Template.fits (.object inputs) with
      | false => rfl
      | true => simp [mapError_ok, Prepared.logged, Except.map, pure, Except.pure]

namespace Prepared

variable (prepared : Prepared ω) (step : String) (inputs : Variables)

/-- The calls that are made from a state of a pass on, in holding a dialogue, when all directives
run in place. -/
def callsInPlace : Dialogue (Ending Unit) → Pass ω → CallLog
  | .finished _, _ => []
  | .asks id scope next, pass =>
    match prepared.directives[id]? with
    | none => callsInPlace (next (none, pass.outputs)) pass
    | some (o, directive) =>
      let call := pass.callOf step inputs id o.name (o.resolve scope pass.outputs inputs)
      let (reply, world) := directive.run call pass.world
      ⟨directive.awaited, call⟩ ::
        match reply.result with
        | .error _ => []
        | .ok text => callsInPlace (next (text, reply.outputs)) (pass.received id reply world)

/-- The directive with the number `id` is the same one, with its calls noted. -/
theorem directives_logged (id : Nat) :
    prepared.logged.directives[id]? =
      (prepared.directives[id]?).map fun entry => (entry.1, entry.2.logged) := by
  simp [logged]

/-- Holding the dialogue `d` with a log is holding it without one, and noting the calls of the
dialogue at the end of `log`. -/
theorem hold_logged (d : Dialogue (Ending Unit)) (pass : Pass ω) (log : CallLog) :
    Rendering.ofPass ((d.hold (Pass.invokeInPlace prepared.logged step inputs)).run
        (pass.withLog log)) =
      let (rendering, world) :=
        Rendering.ofPass ((d.hold (Pass.invokeInPlace prepared step inputs)).run pass)
      (rendering, world, log ++ prepared.callsInPlace step inputs d pass) := by
  induction d generalizing pass log with
  | finished ending =>
    obtain ⟨result, machine⟩ := ending
    cases result <;> simp [callsInPlace] <;> rfl
  | asks id scope next ih =>
    rw [Dialogue.run_hold_asks, Dialogue.run_hold_asks]
    cases hsome : prepared.directives[id]? with
    | none =>
      have hfind : prepared.logged.directives[id]? = none := by
        rw [directives_logged, hsome]
        rfl
      rw [Pass.run_invokeInPlace_of_none _ _ _ _ _ _ hsome,
        Pass.run_invokeInPlace_of_none _ _ _ _ _ _ hfind]
      simp only [callsInPlace, hsome]
      exact ih _ pass log
    | some found =>
      obtain ⟨o, directive⟩ := found
      -- The logged directive stands at the same place, and its log grows by the call.
      have hfind : prepared.logged.directives[id]? = some (o, directive.logged) := by
        rw [directives_logged, hsome]
        rfl
      obtain ⟨⟨reply, world⟩, hreply⟩ : ∃ r, directive.run (pass.callOf step inputs id o.name
        (o.resolve scope pass.outputs inputs)) pass.world = r := ⟨_, rfl⟩
      rw [Pass.run_invokeInPlace_of_some _ _ _ _ _ _ hsome, Pass.run_run _ _ _ _ hreply,
        Pass.run_invokeInPlace_of_some _ _ _ _ _ _ hfind, Pass.outputs_withLog,
        Pass.run_run (pass.withLog log) _ _ _ (directive.run_logged log hreply)]
      simp only [callsInPlace, hsome, hreply]
      cases reply.result with
      | error e => rfl
      | ok text =>
        have hrest := ih (text, reply.outputs) (pass.received id reply world)
          (log ++ [⟨directive.awaited, pass.callOf step inputs id o.name
            (o.resolve scope pass.outputs inputs)⟩])
        rw [List.append_assoc] at hrest
        exact hrest

end Prepared

/-- A log does not disturb rendering in place: the rendering and the world are the same, and what is
noted at the end of `log` are the calls of the dialogue `d`. -/
theorem renderInPlace_logged {registry : Registry ω} {inputs : Variables} {body : String}
    {prepared : Prepared ω} (hprepare : prepare registry inputs body = .ok prepared)
    {d : Dialogue (Ending Unit)} (hd : prepared.IsDialogue d) (step : String) (world : ω)
    (log : CallLog) :
    renderInPlace registry.logged step inputs body (world, log) =
      let (rendering, after) := renderInPlace registry step inputs body world
      (rendering, after, log ++ prepared.callsInPlace step inputs d (.start world)) := by
  have hlogged : prepare registry.logged inputs body = .ok prepared.logged := by
    rw [prepare_logged, hprepare]
    rfl
  -- The nodes and variables of the template are the same, and so is the dialogue.
  have hd' : prepared.logged.IsDialogue d := hd
  rw [Prepared.renderInPlace_eq hd' step inputs hlogged,
    Prepared.renderInPlace_eq hd step inputs hprepare]
  exact prepared.hold_logged step inputs d (.start world) log

end Promptbook
