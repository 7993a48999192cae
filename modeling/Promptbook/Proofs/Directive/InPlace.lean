import Promptbook.Proofs.Directive.CallLog
import Promptbook.Proofs.Directive.Replay

/-!
# Rendering in Passes and in Place

Rendering in passes gives what rendering in place gives, where an awaited directive runs like any
other: the same text or the same error, and the same outputs. This holds for directives whose
replies are functions of their calls, as long as no more awaited calls are made than are allowed.

## Main definitions

* `Pass.Agrees`: two passes have the same outputs and the same positions of fields. This is what
  relates a pass that has been resumed to the pass in place.

## Main results

* `Prepared.resume_eq_inPlace`: resuming and running in place render the same from passes that
  agree.
* `render_eq_renderInPlace`: so do both ways of rendering a body.
-/

namespace Promptbook

open Template (Dialogue Ending)

variable {ω : Type}

/-- What every directive in `registry` replies is a function of its call. -/
def Registry.Functional (registry : Registry ω) : Prop :=
  ∀ (name : String) (directive : Directive ω),
    Fields.value? registry name = some directive → directive.Functional

/-- What a directive can see of two passes is the same: the outputs and the positions of the next
fields, but neither the world nor the visits. -/
structure Pass.Agrees (pass other : Pass ω) : Prop where
  /-- The outputs are the same. -/
  outputs : pass.outputs = other.outputs
  /-- The positions of the next fields are the same. -/
  fieldIndexes : pass.fieldIndexes = other.fieldIndexes

namespace Pass.Agrees

variable {pass other : Pass ω}

/-- Passes that agree make the same call of the occurrence `id`. -/
theorem callOf_eq (h : pass.Agrees other) (step : String) (inputs : Variables) (id : Nat)
    (name : String) (arguments : Arguments) :
    pass.callOf step inputs id name arguments = other.callOf step inputs id name arguments := by
  rw [callOf, callOf, h.outputs, h.fieldIndexes]

/-- Passes that agree still do so after the same `reply`, which `other` receives from a directive
while `pass` puts it in as a kept one. -/
theorem answered (h : pass.Agrees other) (id : Nat) (arguments : Arguments) (text : Option String)
    (reply : Reply) (world after : ω) :
    Pass.Agrees
      ((pass.answered id ⟨arguments, text, reply.outputs, reply.fieldIndex⟩).inWorld world)
      (other.received id reply after) :=
  ⟨rfl, congrArg (·.insert id reply.fieldIndex) h.fieldIndexes⟩

/-- Passes that agree still do so after both have received the same `reply`. -/
theorem received (h : pass.Agrees other) (id : Nat) (reply : Reply) (world after : ω) :
    Pass.Agrees (pass.received id reply world) (other.received id reply after) :=
  ⟨rfl, congrArg (·.insert id reply.fieldIndex) h.fieldIndexes⟩

/-- In passes that agree, a functional `directive` gives the same reply to the same occurrence
`o`. -/
theorem reply_eq (h : pass.Agrees other) {directive : Directive ω}
    (hfunctional : directive.Functional) {step : String} {inputs : Variables} {id : Nat}
    {o : Occurrence} {scope : Path → Option Value} {reply reply' : Reply} {world after : ω}
    (hreply : directive.run (pass.callOf step inputs id o.name
      (o.resolve scope pass.outputs inputs)) pass.world = (reply, world))
    (hreply' : directive.run (other.callOf step inputs id o.name
      (o.resolve scope other.outputs inputs)) other.world = (reply', after)) :
    reply' = reply := by
  have hsame := hfunctional (pass.callOf step inputs id o.name
    (o.resolve scope pass.outputs inputs)) other.world pass.world
  rw [hreply, h.callOf_eq, h.outputs, hreply'] at hsame
  exact hsame

end Pass.Agrees

namespace Prepared

/-- If `prepare` succeeds, the directives of `body` have been extracted and its template has been
read. -/
theorem exists_of_prepare {registry : Registry ω} {inputs : Variables} {body : String}
    {prepared : Prepared ω} (hprepare : prepare registry inputs body = .ok prepared) :
    ∃ extraction, extract (Fields.has registry) body = .ok extraction ∧
      prepared.directives = (extraction.occurrences.filterMap fun o =>
        (Fields.value? registry o.name).map fun directive => (o, directive)).toArray ∧
      Template.readTemplate (hostTags (prepared.directives.toList.map Prod.fst).toArray)
        (String.ofList extraction.template) = .ok prepared.nodes ∧
      prepared.globals = Roots.globals inputs body := by
  unfold prepare at hprepare
  cases hextract : extract (Fields.has registry) body with
  | error found => simp [hextract, mapError_error, bind, Except.bind] at hprepare
  | ok extraction =>
    simp only [hextract, mapError_ok, bind, Except.bind] at hprepare
    split at hprepare
    · cases hprepare
    · next nodes hread =>
      split at hprepare
      · cases hprepare
        exact ⟨extraction, rfl, rfl, eq_ok_of_mapError hread, rfl⟩
      · cases hprepare

/-- The directive that `prepared` keeps with an occurrence `o` is the one that `registry` has under
the name of `o`. -/
theorem directive_of_prepare {registry : Registry ω} {inputs : Variables} {body : String}
    {prepared : Prepared ω} (hprepare : prepare registry inputs body = .ok prepared) {id : Nat}
    {o : Occurrence} {directive : Directive ω}
    (hsome : prepared.directives[id]? = some (o, directive)) :
    Fields.value? registry o.name = some directive := by
  obtain ⟨extraction, -, hdirectives, -⟩ := exists_of_prepare hprepare
  -- Directives are kept for those occurrences only whose name is known.
  rw [hdirectives, List.getElem?_toArray] at hsome
  obtain ⟨o', -, hfound⟩ := List.mem_filterMap.1 (List.mem_of_getElem? hsome)
  obtain ⟨found, hfound, heq⟩ := Option.map_eq_some_iff.1 hfound
  cases heq
  exact hfound

/-- If `registry` is functional, so are the directives of every body that is prepared with it. -/
theorem functional_of_prepare {registry : Registry ω} {inputs : Variables} {body : String}
    {prepared : Prepared ω} (hregistry : registry.Functional)
    (hprepare : prepare registry inputs body = .ok prepared) : prepared.Functional :=
  fun _ o directive hsome => hregistry o.name directive (directive_of_prepare hprepare hsome)

variable {prepared : Prepared ω} {step : String} {inputs : Variables}

/-- From passes that agree, `resume` renders what running every directive in place renders, if no
more than `remaining` awaited calls are made in place. -/
theorem resume_eq_inPlace (hfunctional : prepared.Functional) {d : Dialogue (Ending Unit)}
    {remaining : Nat} {pass other : Pass ω} {again : ω → ω} (hagrees : pass.Agrees other)
    (hcalls : (prepared.callsInPlace step inputs d other).countP LoggedCall.awaited ≤ remaining) :
    (prepared.resume step inputs d remaining pass again).1 =
      (Rendering.ofPass
        ((d.hold (Pass.invokeInPlace prepared step inputs)).run other)).1 := by
  induction d generalizing remaining pass other again with
  | finished ending =>
    obtain ⟨result, machine⟩ := ending
    rw [resume, Dialogue.run_hold_finished]
    cases result <;> simp [Rendering.ofPass, hagrees.outputs]
  | asks id scope next ih =>
    rw [Dialogue.run_hold_asks]
    cases hsome : prepared.directives[id]? with
    | none =>
      rw [callsInPlace, hsome] at hcalls
      rw [resume_none step inputs id scope next remaining pass again hsome,
        Pass.run_invokeInPlace_of_none _ _ _ _ _ _ hsome, hagrees.outputs]
      exact ih _ hagrees hcalls
    | some found =>
      obtain ⟨o, directive⟩ := found
      obtain ⟨⟨reply, world⟩, hreply⟩ : ∃ r, directive.run (pass.callOf step inputs id o.name
        (o.resolve scope pass.outputs inputs)) pass.world = r := ⟨_, rfl⟩
      obtain ⟨⟨reply', after⟩, hreply'⟩ : ∃ r, directive.run (other.callOf step inputs id o.name
        (o.resolve scope other.outputs inputs)) other.world = r := ⟨_, rfl⟩
      -- The calls are the same, and so are the replies.
      obtain rfl := hagrees.reply_eq (hfunctional id o directive hsome) hreply hreply'
      simp only [callsInPlace, hsome, hreply', List.countP_cons] at hcalls
      rw [Pass.run_invokeInPlace_of_some _ _ _ _ _ _ hsome, Pass.run_run _ _ _ _ hreply']
      cases hawaited : directive.awaited with
      | true =>
        -- The call is one of those that may still be made.
        simp only [hawaited, if_true] at hcalls
        obtain ⟨remaining, rfl⟩ : ∃ n, remaining = n + 1 := ⟨remaining - 1, by omega⟩
        rw [resume_awaited_succ step inputs id scope next remaining pass again hsome hawaited
          hreply]
        cases hresult : reply'.result with
        | error e => rfl
        | ok text =>
          rw [hresult] at hcalls
          exact ih _ (hagrees.answered id _ text reply' _ after) (by dsimp only at hcalls; omega)
      | false =>
        rw [resume_immediate step inputs id scope next remaining pass again hsome hawaited hreply]
        cases hresult : reply'.result with
        | error e => rfl
        | ok text =>
          rw [hresult] at hcalls
          exact ih _ (hagrees.received id reply' world after) (by dsimp only at hcalls; omega)

end Prepared

/-- Rendering `body` in passes gives the same text or error and the same outputs as rendering it in
a single pass with awaited directives run in place, if what the directives in `registry` reply is a
function of their calls and rendering in place makes at most `maxAwaitedCalls` awaited calls. -/
theorem render_eq_renderInPlace (registry : Registry ω) (hregistry : registry.Functional)
    (step : String) (inputs : Variables) (body : String) (world : ω)
    (hcalls : awaitedInPlace registry step inputs body world ≤ maxAwaitedCalls) :
    (render registry step inputs body world).1 =
      (renderInPlace registry step inputs body world).1 := by
  cases hprepare : prepare registry inputs body with
  | error e =>
    -- A body that cannot be read is not rendered in either way.
    unfold render renderInPlace
    rw [hprepare]
  | ok prepared =>
    obtain ⟨d, hd⟩ := prepared.exists_dialogue
    have hfunctional := Prepared.functional_of_prepare hregistry hprepare
    -- The awaited calls are counted in the same dialogue.
    have hcount : (prepared.callsInPlace step inputs d (.start world)).countP LoggedCall.awaited ≤
        maxAwaitedCalls := by
      rw [awaitedInPlace, renderInPlace_logged hprepare hd] at hcalls
      exact hcalls
    unfold render
    rw [hprepare, Prepared.renderInPlace_eq hd step inputs hprepare]
    simp only
    rw [Prepared.renderWith_eq_resume hd hfunctional]
    exact Prepared.resume_eq_inPlace hfunctional ⟨rfl, rfl⟩ hcount

/-- An awaited directive that shows how many outputs there are and adds one. The world counts how
often it has been run. -/
def numbering : Directive Nat where
  awaited := true
  run call := do
    modify (· + 1)
    let count := toString call.context.outputs.length
    return ⟨call.context.outputs.put count (.string count), call.fieldIndex, .ok (some count)⟩

/-- A capture and a condition in a loop, with a directive that is met twice. -/
def numberedBody : String :=
  "{% for i in (1..2) %}{% capture c %}{% ask v=i %}{% endcapture %}" ++
    "{% if i == 2 %}{{ c }}{% endif %}{% endfor %}"

/-- The replies of `numbering` are functions of its calls, though it changes the world. -/
theorem functional_numbering : Registry.Functional [("ask", numbering)] := by
  intro name directive hfound call world world'
  have hmem := Fields.mem_of_value? hfound
  simp only [List.mem_cons, List.not_mem_nil, or_false, Prod.mk.injEq] at hmem
  obtain ⟨-, rfl⟩ := hmem
  rfl

/-- The body `numberedBody` is rendered the same in passes and in place. -/
theorem render_eq_renderInPlace_numbered :
    Registry.Functional [("ask", numbering)] ∧
      awaitedInPlace [("ask", numbering)] "greeting" [] numberedBody 0 ≤ maxAwaitedCalls ∧
      (render [("ask", numbering)] "greeting" [] numberedBody 0).1 =
        (renderInPlace [("ask", numbering)] "greeting" [] numberedBody 0).1 := by
  have hcalls :
      awaitedInPlace [("ask", numbering)] "greeting" [] numberedBody 0 ≤ maxAwaitedCalls := by
    decide +kernel
  refine ⟨functional_numbering, hcalls, ?_⟩
  exact render_eq_renderInPlace _ functional_numbering "greeting" [] numberedBody 0 hcalls

end Promptbook
