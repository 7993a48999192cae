import Promptbook.Directive.Builtin.Examples
import Promptbook.Proofs.Directive.Listing
import Promptbook.Proofs.Directive.RoundLog

/-!
# The Limit on Awaited Calls

Every rendering ends, whatever the directives of the body do. They may reply to the same call in
different ways and so lead each pass to another place; then no visit is ever settled for good, and
only the count of the awaited calls ends the rendering.

## Main definitions

* `Prepared.Settles`: a rendering that ends by itself, with its awaited calls and its passes.
* `Prepared.Due`: a rendering that needs yet another awaited call after some.
* `AwaitLimit`: what the limit means for a body.

## Main results

* `render_logged`: the log from which awaited calls are counted does not disturb a rendering.
* `render_awaitLimit`: renderings keep the limit. No more awaited calls are made than are allowed, a
  body that needs just as many is rendered, and the error of the limit is given when another one is
  due.
-/

namespace Promptbook

variable {ω : Type}

namespace Prepared

variable (prepared : Prepared ω) (step : String) (inputs : Variables) (world : ω)

/-- Unless the awaited calls were limited, a rendering that starts in `world` would make the awaited
calls `calls` in as many passes as `passes` says, and come to `result`. If a directive has failed,
so does the rendering, with the error of the directive as `failure`. -/
def Settles (calls : List (Round ω)) (passes : Nat) (failure : Option Error)
    (result : Rendering × ω) : Prop :=
  ∃ rounds answers last final,
    prepared.Rounds step inputs ∅ world rounds answers last ∧
    prepared.Closes step inputs answers last final failure result ∧
    calls = rounds ++ final ∧ passes = rounds.length + 1

/-- A rendering that starts in `world` makes the awaited calls `calls`, and the pass after them, the
last one of `passes`, ends in the state `pass` at an awaited directive, so that another call is
due. -/
def Due (calls : List (Round ω)) (passes : Nat) (pass : Pass ω) : Prop :=
  ∃ answers last suspension,
    prepared.Rounds step inputs ∅ world calls answers last ∧
    prepared.outcome step inputs answers last = .error (.awaiting suspension) pass ∧
    passes = calls.length + 1

variable {prepared step inputs world} {calls : List (Round ω)} {passes : Nat}
  {failure : Option Error} {result : Rendering × ω} {pass : Pass ω}

/-- A rendering that settles with at most `limit` awaited calls comes to its `result` if `limit` of
them are allowed. -/
theorem Settles.renderWith_eq (h : prepared.Settles step inputs world calls passes failure result)
    {limit : Nat} (hlimit : calls.length ≤ limit) :
    prepared.renderWith step inputs limit ∅ world = result := by
  obtain ⟨rounds, answers, last, final, hrounds, hcloses, rfl, -⟩ := h
  rw [List.length_append] at hlimit
  -- What remains of the limit after the rounds is enough for the call that may still come.
  obtain ⟨remaining, rfl⟩ := Nat.exists_eq_add_of_le (Nat.le_of_add_right_le hlimit)
  rw [renderWith_of_rounds hrounds]
  exact renderWith_of_closes hcloses (by omega)

/-- A rendering for which another call is due after `calls` is refused if no more are allowed, with
the outputs of the pass that has ended there. -/
theorem Due.renderWith_eq (h : prepared.Due step inputs world calls passes pass) :
    prepared.renderWith step inputs calls.length ∅ world =
      (⟨pass.outputs, .error tooManyCalls⟩, pass.world) := by
  obtain ⟨answers, last, suspension, hrounds, hpass, -⟩ := h
  have hall := renderWith_of_rounds hrounds 0
  rw [Nat.add_zero] at hall
  rw [hall]
  exact renderWith_of_due hpass

/-- A rendering that settles does so with a log as well, and `log` gets its awaited calls. -/
theorem Settles.logged (h : prepared.Settles step inputs world calls passes failure result) :
    ∃ calls' log, prepared.logged.Settles step inputs (world, []) calls' passes failure
        (result.1, result.2, log) ∧
      calls'.length = calls.length ∧
      CallLog.awaitedCalls log = calls.map (Round.call step inputs) := by
  obtain ⟨rounds, answers, last, final, hrounds, hcloses, rfl, rfl⟩ := h
  obtain ⟨rounds', log, hrounds', hlength, hcalls⟩ := hrounds.logged []
  obtain ⟨final', log', hcloses', hfinal, hcalls'⟩ := hcloses.logged log
  refine ⟨rounds' ++ final', log',
    ⟨rounds', answers, (last, log), final', hrounds', hcloses', rfl, by rw [hlength]⟩, ?_, ?_⟩
  · rw [List.length_append, List.length_append, hlength, hfinal]
  · rw [hcalls', hcalls, List.map_append]
    rfl

/-- Another call is due with a log just as without one, and `log` has the awaited calls up to
then. -/
theorem Due.logged (h : prepared.Due step inputs world calls passes pass) :
    ∃ calls' log, prepared.logged.Due step inputs (world, []) calls' passes (pass.withLog log) ∧
      calls'.length = calls.length ∧
      CallLog.awaitedCalls log = calls.map (Round.call step inputs) := by
  obtain ⟨answers, last, suspension, hrounds, hpass, rfl⟩ := h
  obtain ⟨rounds', log, hrounds', hlength, hcalls⟩ := hrounds.logged []
  obtain ⟨noted, hnoted, houtcome⟩ := prepared.outcome_logged step inputs answers last log
  rw [hpass] at houtcome
  refine ⟨rounds', log ++ noted,
    ⟨answers, (last, log), suspension, hrounds', houtcome, by rw [hlength]⟩, hlength, ?_⟩
  rw [CallLog.awaitedCalls_append, hnoted, List.append_nil, hcalls]
  rfl

/-- A rendering in which a directive has failed with `e` gives `e`. -/
theorem Closes.result_eq {answers : Answers} {final : List (Round ω)} {e : Error}
    (h : prepared.Closes step inputs answers world final (some e) result) :
    result.1.result = .error e := by
  cases h <;> rfl

end Prepared

/-- A fault of a template is never the error `tooManyCalls`. -/
theorem faultError_ne_tooManyCalls (f : Template.Fault) : faultError f ≠ tooManyCalls := by
  intro h
  rw [faultError, tooManyCalls, Error.rendering.injEq, String.ext_iff] at h
  -- The texts differ in their first letters.
  simp [String.toList_append] at h

/-- A body that cannot be read is never refused with `tooManyCalls`. -/
theorem prepare_ne_tooManyCalls {registry : Registry ω} {inputs : Variables} {body : String} :
    prepare registry inputs body ≠ .error tooManyCalls := by
  intro h
  unfold prepare at h
  cases hextract : extract (Fields.has registry) body with
  | error found =>
    simp [hextract, mapError_error, bind, Except.bind, tooManyCalls] at h
  | ok extraction =>
    simp only [hextract, mapError_ok, bind, Except.bind] at h
    split at h
    · next hread =>
      cases h
      -- Only the template was wrong, and such an error says so.
      generalize Template.readTemplate _ _ = read at hread
      cases read <;> simp [mapError_error, mapError_ok, tooManyCalls] at hread
    · split at h
      · cases h
      · exact faultError_ne_tooManyCalls _ (Except.error.inj h)

/-- A rendering that closes by itself gives `tooManyCalls` only if a directive has failed with this
error. -/
theorem Prepared.Closes.failure_eq {prepared : Prepared ω} {step : String} {inputs : Variables}
    {answers : Answers} {world : ω} {final : List (Round ω)} {failure : Option Error}
    {result : Rendering × ω} (h : prepared.Closes step inputs answers world final failure result)
    (hresult : result.1.result = .error tooManyCalls) : failure = some tooManyCalls := by
  cases h with
  | @ended ending pass hpass =>
    obtain ⟨_ | _, machine⟩ := ending
    · exact absurd (Except.error.inj hresult) (faultError_ne_tooManyCalls _)
    · cases hresult
  | failed hpass => exact congrArg some (Except.error.inj hresult)
  | awaitedFailed hmade herror => exact congrArg some (Except.error.inj hresult)

/-- What the limit `maxAwaitedCalls` means for a body. -/
structure AwaitLimit (registry : Registry ω) (step : String) (inputs : Variables) (body : String)
    (world : ω) : Prop where
  /-- No more than `maxAwaitedCalls` awaited calls are made. -/
  calls_le : (awaitedCalls registry step inputs body world).length ≤ maxAwaitedCalls
  /-- The rendering ends, with at most one pass more than that. Either it settles by itself, or
  another awaited call is due when all that are allowed have been made. In both cases `calls` are
  the awaited calls that are made. -/
  ends : ∀ prepared, prepare registry inputs body = .ok prepared →
    ∃ calls passes,
      awaitedCalls registry step inputs body world = calls.map (Round.call step inputs) ∧
      passes ≤ maxAwaitedCalls + 1 ∧
      ((∃ failure, prepared.Settles step inputs world calls passes failure
          (render registry step inputs body world)) ∨
        (calls.length = maxAwaitedCalls ∧
          ∃ pass, prepared.Due step inputs world calls passes pass))
  /-- A body that settles with `maxAwaitedCalls` awaited calls, or with fewer, is rendered to the
  `result` to which it settles. -/
  settled : ∀ prepared calls passes failure result, prepare registry inputs body = .ok prepared →
    prepared.Settles step inputs world calls passes failure result →
    calls.length ≤ maxAwaitedCalls → render registry step inputs body world = result
  /-- A body for which another awaited call is due after `maxAwaitedCalls` is refused, with the
  outputs of the `pass` that has ended there. -/
  refused : ∀ prepared calls passes pass, prepare registry inputs body = .ok prepared →
    prepared.Due step inputs world calls passes pass → calls.length = maxAwaitedCalls →
    render registry step inputs body world = (⟨pass.outputs, .error tooManyCalls⟩, pass.world)
  /-- The error `tooManyCalls` is given just then, unless a directive itself has failed with the
  same error. -/
  error_iff : (render registry step inputs body world).1.result = .error tooManyCalls ↔
    ∃ prepared, prepare registry inputs body = .ok prepared ∧
      ((∃ calls passes pass, calls.length = maxAwaitedCalls ∧
          prepared.Due step inputs world calls passes pass) ∨
        (∃ calls passes, calls.length ≤ maxAwaitedCalls ∧
          prepared.Settles step inputs world calls passes (some tooManyCalls)
            (render registry step inputs body world)))

section Bodies

variable {registry : Registry ω} {step : String} {inputs : Variables} {body : String} {world : ω}

/-- A body that has been read as `prepared` is rendered in passes. -/
theorem render_eq_renderWith {prepared : Prepared ω}
    (hprepare : prepare registry inputs body = .ok prepared) (step : String) (world : ω) :
    render registry step inputs body world =
      prepared.renderWith step inputs maxAwaitedCalls ∅ world := by
  unfold render
  rw [hprepare]

/-- A body that cannot be read is refused with the error `e` of reading it, and no directive is
called. -/
theorem render_of_error {e : Error} (hprepare : prepare registry inputs body = .error e)
    (step : String) (world : ω) :
    render registry step inputs body world = (⟨[], .error e⟩, world) := by
  unfold render
  rw [hprepare]

/-- The awaited calls of a body that has been read are those in the log of its rendering. -/
theorem awaitedCalls_eq {prepared : Prepared ω}
    (hprepare : prepare registry inputs body = .ok prepared) (step : String) (world : ω) :
    awaitedCalls registry step inputs body world =
      CallLog.awaitedCalls
        (prepared.logged.renderWith step inputs maxAwaitedCalls ∅ (world, [])).2.2 := by
  have hlogged : prepare registry.logged inputs body = .ok prepared.logged := by
    rw [prepare_logged, hprepare]
    rfl
  rw [awaitedCalls, render_eq_renderWith hlogged]

/-- A body is rendered to the `result` to which it settles within the limit. -/
theorem render_of_settles {prepared : Prepared ω} {calls : List (Round ω)} {passes : Nat}
    {failure : Option Error} {result : Rendering × ω}
    (hprepare : prepare registry inputs body = .ok prepared)
    (h : prepared.Settles step inputs world calls passes failure result)
    (hlimit : calls.length ≤ maxAwaitedCalls) :
    render registry step inputs body world = result := by
  rw [render_eq_renderWith hprepare]
  exact h.renderWith_eq hlimit

/-- A body for which another awaited call is due at the limit is refused, with the outputs of
`pass`. -/
theorem render_of_due {prepared : Prepared ω} {calls : List (Round ω)} {passes : Nat}
    {pass : Pass ω} (hprepare : prepare registry inputs body = .ok prepared)
    (h : prepared.Due step inputs world calls passes pass)
    (hlimit : calls.length = maxAwaitedCalls) :
    render registry step inputs body world =
      (⟨pass.outputs, .error tooManyCalls⟩, pass.world) := by
  rw [render_eq_renderWith hprepare, ← hlimit]
  exact h.renderWith_eq

/-- The awaited calls of a rendering that settles are those of its rounds `calls`. -/
theorem awaitedCalls_of_settles {prepared : Prepared ω} {calls : List (Round ω)} {passes : Nat}
    {failure : Option Error} {result : Rendering × ω}
    (hprepare : prepare registry inputs body = .ok prepared)
    (h : prepared.Settles step inputs world calls passes failure result)
    (hlimit : calls.length ≤ maxAwaitedCalls) :
    awaitedCalls registry step inputs body world = calls.map (Round.call step inputs) := by
  obtain ⟨calls', log, hlogged, hlength, hcalls⟩ := h.logged
  rw [awaitedCalls_eq hprepare, hlogged.renderWith_eq (by omega)]
  exact hcalls

/-- The awaited calls of a rendering that is refused are those of its rounds `calls`. -/
theorem awaitedCalls_of_due {prepared : Prepared ω} {calls : List (Round ω)} {passes : Nat}
    {pass : Pass ω} (hprepare : prepare registry inputs body = .ok prepared)
    (h : prepared.Due step inputs world calls passes pass)
    (hlimit : calls.length = maxAwaitedCalls) :
    awaitedCalls registry step inputs body world = calls.map (Round.call step inputs) := by
  obtain ⟨calls', log, hlogged, hlength, hcalls⟩ := h.logged
  rw [awaitedCalls_eq hprepare, ← hlimit, ← hlength, hlogged.renderWith_eq]
  exact hcalls

/-- A body that has been read settles with at most `limit` awaited calls, or another one is due
after `limit` of them. -/
theorem Prepared.settles_or_due (prepared : Prepared ω) (step : String) (inputs : Variables)
    (world : ω) (limit : Nat) :
    (∃ calls passes failure result, calls.length ≤ limit ∧ passes ≤ limit + 1 ∧
        prepared.Settles step inputs world calls passes failure result) ∨
      (∃ calls pass, calls.length = limit ∧
        prepared.Due step inputs world calls (limit + 1) pass) := by
  obtain ⟨rounds, answers, last, hrounds, hend⟩ := prepared.closes_or_due step inputs ∅ world limit
  rcases hend with ⟨final, failure, result, hle, hcloses⟩ | ⟨hlength, suspension, pass, hpass⟩
  · refine .inl ⟨rounds ++ final, rounds.length + 1, failure, result, ?_, by omega,
      rounds, answers, last, final, hrounds, hcloses, rfl, rfl⟩
    rw [List.length_append]
    exact hle
  · exact .inr ⟨rounds, pass, hlength, answers, last, suspension, hrounds, hpass, by rw [hlength]⟩

/-- A log beside the world does not disturb a rendering: what is rendered and the world that is left
are the same. -/
theorem render_logged (registry : Registry ω) (step : String) (inputs : Variables) (body : String)
    (world : ω) :
    ∃ log, render registry.logged step inputs body (world, []) =
      ((render registry step inputs body world).1, (render registry step inputs body world).2,
        log) := by
  cases hprepare : prepare registry inputs body with
  | error e =>
    have hlogged : prepare registry.logged inputs body = .error e := by
      rw [prepare_logged, hprepare]
      rfl
    rw [render_of_error hprepare, render_of_error hlogged]
    exact ⟨[], rfl⟩
  | ok prepared =>
    have hlogged : prepare registry.logged inputs body = .ok prepared.logged := by
      rw [prepare_logged, hprepare]
      rfl
    -- With the log the rendering ends in the same way, after as many rounds.
    rcases prepared.settles_or_due step inputs world maxAwaitedCalls with
      ⟨calls, passes, failure, result, hcalls, -, h⟩ | ⟨calls, pass, hcalls, h⟩
    · obtain ⟨calls', log, hsettles, hlength, -⟩ := h.logged
      have hlimit : calls'.length ≤ maxAwaitedCalls := by omega
      rw [render_of_settles hprepare h hcalls, render_of_settles hlogged hsettles hlimit]
      exact ⟨log, rfl⟩
    · obtain ⟨calls', log, hdue, hlength, -⟩ := h.logged
      have hlimit : calls'.length = maxAwaitedCalls := by omega
      rw [render_of_due hprepare h hcalls, render_of_due hlogged hdue hlimit]
      exact ⟨log, rfl⟩

/-- A body that cannot be read calls no directive, so it keeps the limit. -/
theorem AwaitLimit.of_error {e : Error} (hprepare : prepare registry inputs body = .error e) :
    AwaitLimit registry step inputs body world := by
  have hlogged : prepare registry.logged inputs body = .error e := by
    rw [prepare_logged, hprepare]
    rfl
  have hcalls : awaitedCalls registry step inputs body world = [] := by
    rw [awaitedCalls, render_of_error hlogged]
    rfl
  have hne : e ≠ tooManyCalls := fun h => prepare_ne_tooManyCalls (h ▸ hprepare)
  constructor
  case calls_le =>
    rw [hcalls]
    exact Nat.zero_le _
  case error_iff =>
    rw [render_of_error hprepare]
    simpa [hprepare] using hne
  all_goals simp [hprepare]

/-- A body that has been read gives `tooManyCalls` just when another awaited call is due at the
limit, or when a directive has failed with this error. -/
theorem render_error_iff {prepared : Prepared ω}
    (hprepare : prepare registry inputs body = .ok prepared) :
    (render registry step inputs body world).1.result = .error tooManyCalls ↔
      (∃ calls passes pass, calls.length = maxAwaitedCalls ∧
          prepared.Due step inputs world calls passes pass) ∨
        (∃ calls passes, calls.length ≤ maxAwaitedCalls ∧
          prepared.Settles step inputs world calls passes (some tooManyCalls)
            (render registry step inputs body world)) := by
  constructor
  · intro hresult
    rcases prepared.settles_or_due step inputs world maxAwaitedCalls with
      ⟨calls, passes, failure, result, hcalls, -, h⟩ | ⟨calls, pass, hcalls, h⟩
    · -- A rendering that settles fails with this error only if a directive has.
      rw [render_of_settles hprepare h hcalls] at hresult ⊢
      obtain ⟨rounds, answers, last, final, hrounds, hcloses, heq⟩ := h
      obtain rfl := hcloses.failure_eq hresult
      exact .inr ⟨calls, passes, hcalls, rounds, answers, last, final, hrounds, hcloses, heq⟩
    · exact .inl ⟨calls, _, pass, hcalls, h⟩
  · rintro (⟨calls, passes, pass, hcalls, h⟩ | ⟨calls, passes, -, h⟩)
    · rw [render_of_due hprepare h hcalls]
    · obtain ⟨rounds, answers, last, final, -, hcloses, -⟩ := h
      exact hcloses.result_eq

end Bodies

/-- However the directives reply, a rendering makes at most `maxAwaitedCalls` awaited calls, and at
most one pass more than these. It is refused when another awaited call is due after them, and not
before. -/
theorem render_awaitLimit (registry : Registry ω) (step : String) (inputs : Variables)
    (body : String) (world : ω) : AwaitLimit registry step inputs body world := by
  cases hprepare : prepare registry inputs body with
  | error e => exact .of_error hprepare
  | ok prepared =>
    have hunique : ∀ other, prepare registry inputs body = .ok other → other = prepared :=
      fun other h => Except.ok.inj (h.symm.trans hprepare)
    -- After `maxAwaitedCalls` calls the passes have settled, or there have been that many and one
    -- more is due.
    have hcases := prepared.settles_or_due step inputs world maxAwaitedCalls
    constructor
    case calls_le =>
      rcases hcases with ⟨calls, passes, failure, result, hcalls, -, h⟩ | ⟨calls, pass, hcalls, h⟩
      · rw [awaitedCalls_of_settles hprepare h hcalls, List.length_map]
        exact hcalls
      · rw [awaitedCalls_of_due hprepare h hcalls, List.length_map]
        exact Nat.le_of_eq hcalls
    case ends =>
      intro other hother
      obtain rfl := hunique other hother
      rcases hcases with ⟨calls, passes, failure, result, hcalls, hpasses, h⟩ |
        ⟨calls, pass, hcalls, h⟩
      · have hresult := render_of_settles hprepare h hcalls
        exact ⟨calls, passes, awaitedCalls_of_settles hprepare h hcalls, hpasses,
          .inl ⟨failure, hresult ▸ h⟩⟩
      · exact ⟨calls, _, awaitedCalls_of_due hprepare h hcalls, Nat.le_refl _,
          .inr ⟨hcalls, pass, h⟩⟩
    case settled => exact fun _ _ _ _ _ hother h hlimit => render_of_settles hother h hlimit
    case refused => exact fun _ _ _ _ hother h hlimit => render_of_due hother h hlimit
    case error_iff =>
      rw [render_error_iff hprepare]
      constructor
      · exact fun h => ⟨prepared, hprepare, h⟩
      · rintro ⟨other, hother, h⟩
        exact hunique other hother ▸ h

/-- A directive that runs in place and sets the output `n` to the number of times that it has been
run, up to `cap`. -/
def counting (cap : Nat) : Directive Nat where
  awaited := false
  run call := do
    modify fun count => min (count + 1) cap
    let outputs := call.context.outputs.put "n" (.string (toString (← get)))
    return ⟨outputs, call.fieldIndex, .ok none⟩

/-- An awaited directive that shows its argument `v`. -/
def showing : Directive Nat where
  awaited := true
  run call := return call.answer (some (Builtin.argumentText call.arguments "v"))

/-- A loop that meets the awaited directive twice. Its arguments change from pass to pass until
`counting` has come to its cap. -/
def countedBody : String :=
  "{% for i in (1..2) %}{% count %}{% echo v=n %},{% endfor %}"

/-- With a cap of four, `countedBody` needs five awaited calls: it is rendered if these are allowed,
and refused if one fewer is. -/
example :
    (prepare [("count", counting 4), ("echo", showing)] [] countedBody).toOption.map
      (fun prepared =>
        ((prepared.renderListed "greeting" [] 5 [] 0).1.result.isOk,
          (prepared.renderListed "greeting" [] 4 [] 0).1.result.isOk)) = some (true, false) := by
  decide +kernel

/-- A directive that runs in place and sets the output `x` to `0.0` and to `-0.0` by turns. -/
def alternating : Directive Nat where
  awaited := false
  run call := do
    modify (· + 1)
    let x : Float := if (← get) % 2 = 0 then -0.0 else 0.0
    return ⟨call.context.outputs.put "x" (.double x), call.fieldIndex, .ok none⟩

/-- The argument of `echo` is another one in every pass, but it is alike, so a single awaited call
is enough. -/
example :
    (prepare [("turn", alternating), ("echo", showing)] [] "{% turn %}{% echo v=x %}").toOption.map
      (fun prepared => (prepared.renderListed "greeting" [] 1 [] 0).1.result.isOk) = some true := by
  decide +kernel

end Promptbook
