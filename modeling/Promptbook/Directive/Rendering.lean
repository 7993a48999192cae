import Std.Data.HashMap
import Promptbook.Directive.Call
import Promptbook.Directive.Extraction
import Promptbook.Directive.Reference
import Promptbook.Directive.Roots
import Promptbook.Template.Reader
import Promptbook.Template.Render

/-!
# Rendering with Directives

A body is rendered in passes. A directive that is not awaited runs in place. An awaited directive
ends the pass; its reply is obtained, and the next pass renders the body from the start and puts the
reply in at the same visit of the same occurrence. The number of awaited calls is bounded.

Beside it stands the rendering in place, where awaited directives run like all others.
-/

namespace Promptbook

/-- The result of rendering a body: its text, or why there is none, and the outputs that directives
have written. -/
structure Rendering where
  /-- The outputs. -/
  outputs : Variables
  /-- The text. -/
  result : Except Error String

/-- A body whose directives have been extracted and whose template has been read. -/
structure Prepared (ω : Type) where
  /-- The directives, by their numbers, with what stands for their arguments. -/
  directives : Array (Occurrence × Directive ω)
  /-- The nodes of the template. -/
  nodes : List Template.Node
  /-- The variables of the template. -/
  globals : Variables

variable {ω : Type}

/-- The tags of a template that stand for `occurrences`: the first word of a tag is the number of
its occurrence, which has the same name as the tag. -/
def hostTags (occurrences : Array Occurrence) : Template.HostTags := fun name =>
  if occurrences.any (·.name == name) then
    some fun words =>
      let id? := words.head?.bind fun w => Decimal.readCount? w.spelling
      match id?.bind fun id => (occurrences[id]?).map fun o => (id, o.name) with
      | some (id, owner) =>
        if owner == name then .ok (.call id) else .error (.malformedTag name)
      | none => .error (.malformedTag name)
  else none

/-- Extract the directives of `body` and read its template. -/
def prepare (registry : Registry ω) (inputs : Variables) (body : String) :
    Except Error (Prepared ω) := do
  let extraction ← (extract registry.has body).mapError fun (tag, offending) =>
    Error.templateArguments tag (Grammar.unexpected offending)
  let directives := extraction.occurrences.filterMap fun o =>
    (registry.value? o.name).map fun directive => (o, directive)
  let tags := hostTags (directives.map Prod.fst).toArray
  let nodes ← (Template.readTemplate tags (String.ofList extraction.template)).mapError fun e =>
    Error.templateSyntax ("liquid: " ++ e.message)
  if Template.fits (.object inputs) then
    return ⟨directives.toArray, nodes, Roots.globals inputs body⟩
  else throw (.rendering ("liquid: " ++ Template.Fault.numberTooLarge.message))

/-- An awaited call that ended a pass. -/
structure Suspension where
  /-- The number of the directive. -/
  occurrence : Nat
  /-- How often the directive was met before in the same pass. -/
  visit : Nat
  /-- The arguments of the call. -/
  arguments : Arguments
  /-- The position of the next field. -/
  fieldIndex : Nat

/-- Why a pass ends early in a directive. -/
inductive Interruption where
  /-- The directive failed with `e`. -/
  | failed (e : Error)
  /-- The reply of an awaited call is needed. -/
  | awaiting (s : Suspension)

/-- The reply of an awaited call, kept for later passes. -/
structure Answer where
  /-- The arguments of the call. -/
  arguments : Arguments
  /-- The text. -/
  text : Option String
  /-- The outputs after the call. -/
  outputs : Variables
  /-- The position of the next field after the call. -/
  fieldIndex : Nat

/-- The replies of awaited calls, by occurrence and visit. -/
abbrev Answers := Std.HashMap (Nat × Nat) Answer

/-- What the directives of a pass have done so far. -/
structure Pass (ω : Type) where
  /-- The outputs. -/
  outputs : Variables
  /-- The position of the next field, by occurrence. -/
  fieldIndexes : Std.HashMap Nat Nat
  /-- How often each awaited directive has been met. -/
  visits : Std.HashMap Nat Nat
  /-- The world outside. -/
  world : ω

/-- The state at the start of a pass in `world`. -/
def Pass.start (world : ω) : Pass ω :=
  ⟨[], ∅, ∅, world⟩

/-- The arguments of the occurrence `o`: what is written, looked up in `scope`, with references
resolved in the variables of the step. -/
def Occurrence.resolve (o : Occurrence) (scope : Path → Option Value)
    (outputs inputs : Variables) : Arguments :=
  (Arguments.ofItems o.arguments scope).resolve outputs inputs

/-- Run `directive`, the occurrence `id`, in place. -/
def Pass.run (step : String) (inputs : Variables) (id : Nat) (name : String)
    (directive : Directive ω) (arguments : Arguments) :
    EStateM Interruption (Pass ω) (Option String × Variables) := do
  let pass ← get
  let call : Call := ⟨name, ⟨step, inputs, pass.outputs⟩, arguments, pass.fieldIndexes.getD id 0⟩
  let (reply, world) := directive.run call pass.world
  set { pass with
    outputs := reply.outputs
    fieldIndexes := pass.fieldIndexes.insert id reply.fieldIndex
    world := world }
  match reply.result with
  | .ok text => return (text, reply.outputs)
  | .error e => throw (.failed e)

/-- Put the kept reply of an awaited call in, or end the pass if there is none for arguments that
are alike to `arguments`. -/
def Pass.replay (answers : Answers) (id : Nat) (arguments : Arguments) :
    EStateM Interruption (Pass ω) (Option String × Variables) := do
  let pass ← get
  let visit := pass.visits.getD id 0
  let visits := pass.visits.insert id (visit + 1)
  let suspension : Suspension := ⟨id, visit, arguments, pass.fieldIndexes.getD id 0⟩
  match answers[(id, visit)]? with
  | some answer =>
    if answer.arguments.alike arguments then
      set { pass with
        outputs := answer.outputs
        fieldIndexes := pass.fieldIndexes.insert id answer.fieldIndex
        visits := visits }
      return (answer.text, answer.outputs)
    else
      set { pass with visits := visits }
      throw (.awaiting suspension)
  | none =>
    set { pass with visits := visits }
    throw (.awaiting suspension)

/-- Call the directive of the occurrence `id` during a pass. -/
def Pass.invoke (prepared : Prepared ω) (step : String) (inputs : Variables) (answers : Answers)
    (id : Nat) (scope : Path → Option Value) :
    EStateM Interruption (Pass ω) (Option String × Variables) := do
  let outputs := (← get).outputs
  match prepared.directives[id]? with
  | none => return (none, outputs)
  | some (o, directive) =>
    let arguments := o.resolve scope outputs inputs
    if directive.awaited then Pass.replay answers id arguments
    else Pass.run step inputs id o.name directive arguments

/-- Call the directive of the occurrence `id` in place, awaited or not. -/
def Pass.invokeInPlace (prepared : Prepared ω) (step : String) (inputs : Variables)
    (id : Nat) (scope : Path → Option Value) :
    EStateM Interruption (Pass ω) (Option String × Variables) := do
  let outputs := (← get).outputs
  match prepared.directives[id]? with
  | none => return (none, outputs)
  | some (o, directive) =>
    Pass.run step inputs id o.name directive (o.resolve scope outputs inputs)

/-- Render the nodes of a body once, with `call` as the way of calling directives. -/
def Prepared.pass (prepared : Prepared ω)
    (call : Nat → (Path → Option Value) →
      EStateM Interruption (Pass ω) (Option String × Variables)) (world : ω) :
    EStateM.Result (Template.Stop Interruption) (Template.Machine (Pass ω)) Unit :=
  Template.renderNodes ⟨prepared.globals, call⟩ [] prepared.nodes (.start (.start world))

/-- The error of a template that cannot be rendered because of `f`. -/
def faultError (f : Template.Fault) : Error :=
  .rendering ("liquid: " ++ f.message)

/-- How many awaited calls a rendering may make. -/
def maxAwaitedCalls : Nat := 1024

/-- The error of a rendering that needs more than `maxAwaitedCalls`. -/
def tooManyCalls : Error :=
  .rendering ("more than " ++ toString maxAwaitedCalls ++ " awaited directive calls")

/-- Obtain the reply of the awaited call that ended a pass. -/
def Suspension.run (s : Suspension) (directive : Directive ω) (name step : String)
    (inputs outputs : Variables) : StateM ω Reply :=
  directive.run ⟨name, ⟨step, inputs, outputs⟩, s.arguments, s.fieldIndex⟩

/-- Render a body in passes; `remaining` is the number of awaited calls that may still be made. -/
def Prepared.renderWith (prepared : Prepared ω) (step : String) (inputs : Variables) :
    (remaining : Nat) → Answers → ω → Rendering × ω
  | remaining, answers, world =>
    match prepared.pass (Pass.invoke prepared step inputs answers) world with
    | .ok () machine => (⟨machine.host.outputs, .ok machine.out⟩, machine.host.world)
    | .error (.fault f) machine =>
      (⟨machine.host.outputs, .error (faultError f)⟩, machine.host.world)
    | .error (.host (.failed e)) machine =>
      (⟨machine.host.outputs, .error e⟩, machine.host.world)
    | .error (.host (.awaiting s)) machine =>
      match remaining, prepared.directives[s.occurrence]? with
      | remaining + 1, some (o, directive) =>
        -- The call goes on from the outputs that the pass had when it ended.
        let (reply, world) :=
          s.run directive o.name step inputs machine.host.outputs machine.host.world
        match reply.result with
        | .error e => (⟨reply.outputs, .error e⟩, world)
        | .ok text =>
          let answer : Answer := ⟨s.arguments, text, reply.outputs, reply.fieldIndex⟩
          prepared.renderWith step inputs remaining
            (answers.insert (s.occurrence, s.visit) answer) world
      | _, _ => (⟨machine.host.outputs, .error tooManyCalls⟩, machine.host.world)

/-- Render `body`. -/
def render (registry : Registry ω) (step : String) (inputs : Variables) (body : String) :
    StateM ω Rendering := fun world =>
  match prepare registry inputs body with
  | .error e => (⟨[], .error e⟩, world)
  | .ok prepared => prepared.renderWith step inputs maxAwaitedCalls ∅ world

/-- Render `body` in a single pass, with awaited directives run in place. -/
def renderInPlace (registry : Registry ω) (step : String) (inputs : Variables) (body : String) :
    StateM ω Rendering := fun world =>
  match prepare registry inputs body with
  | .error e => (⟨[], .error e⟩, world)
  | .ok prepared =>
    match prepared.pass (Pass.invokeInPlace prepared step inputs) world with
    | .ok () machine => (⟨machine.host.outputs, .ok machine.out⟩, machine.host.world)
    | .error (.fault f) machine =>
      (⟨machine.host.outputs, .error (faultError f)⟩, machine.host.world)
    | .error (.host (.failed e)) machine =>
      (⟨machine.host.outputs, .error e⟩, machine.host.world)
    | .error (.host (.awaiting _)) machine =>
      (⟨machine.host.outputs, .error tooManyCalls⟩, machine.host.world)

end Promptbook
