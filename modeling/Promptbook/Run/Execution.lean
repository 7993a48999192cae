import Promptbook.Configuration.Basic
import Promptbook.Decimal.Reader
import Promptbook.Run.Mode
import Promptbook.Run.Provider
import Promptbook.Text.Runs
import Promptbook.Variable.Reserved
import Promptbook.Workflow.Event
import Promptbook.Workflow.Step

/-!
# Execution of Steps

Executing a step turns the state of a run into its next state. On the way the step sends signals:
events, pauses and requests to providers. A step that fails has no next state.
-/

namespace Promptbook

/-- What can be seen of a run while it goes on. -/
inductive Signal where
  /-- The event `e` is reported. -/
  | event (e : Event)
  /-- Nothing happens for some `milliseconds`. -/
  | pause (milliseconds : Nat)
  /-- The `provider` is asked for `r`, as a whole or in its own way of answering in pieces. -/
  | request (provider : String) (inPieces : Bool) (r : Request)
  deriving DecidableEq, Inhabited

namespace Signal

/-- The event that a signal reports. -/
def event? : Signal → Option Event
  | event e => some e
  | _ => none

/-- How long a signal takes, in milliseconds. -/
def duration : Signal → Nat
  | pause milliseconds => milliseconds
  | _ => 0

/-- How long `signals` take together, in milliseconds. -/
def total (signals : List Signal) : Nat :=
  signals.foldl (fun time signal => time + signal.duration) 0

end Signal

/-- The report of the piece `token` of a text. -/
def tokenSignal (token : String) : Signal :=
  .event (.stepResultStream token)

namespace Simulation

/-- The text that `step` states in place of a generated one. -/
def statedText? (step : Step) : Option String :=
  step.outputText? Reserved.result

/-- The text of `step` in place of a generated one. -/
def text (settings : SimulationSettings) (step : Step) : String :=
  (statedText? step).getD settings.placeholder

/-- The pieces in which the text of `step` is reported: a stated text in runs of white space and of
other characters, each with a pause behind it, the placeholder in one piece. -/
def tokenSignals (settings : SimulationSettings) (step : Step) : List Signal :=
  match statedText? step with
  | some text =>
    (Text.runs text.toList).flatMap fun token =>
      [tokenSignal (String.ofList token), .pause settings.tokenDelay]
  | none => [tokenSignal settings.placeholder]

/-- Make up the text of `step`. -/
def respond (settings : SimulationSettings) (delivery : Delivery) (step : Step) :
    List Signal × Response :=
  ((match delivery with
    | .stream => tokenSignals settings step
    | .blocking => []) ++ [.pause settings.latency],
   .simulated (text settings step))

end Simulation

namespace Generation

/-- The number that a value states, as a number or as its text. -/
def statedNumber? : Value → Option Float
  | .string s => Decimal.read? (Text.trim s)
  | v => v.double?

/-- The model of `step`. -/
def modelOf (settings : RunSettings) (step : Step) : String :=
  (step.outputText? Reserved.model).getD settings.model

/-- The temperature of `step`. -/
def temperatureOf (settings : RunSettings) (step : Step) : Float :=
  ((step.output? Reserved.temperature).bind statedNumber?).getD settings.temperature

/-- The pieces of a text that are taken, up to the last piece or the first failure, and the text
that they make up. Empty pieces are not reported. -/
def consume : List (Except Error Chunk) → List String × Except Error String
  | [] => ([], .ok "")
  | .error e :: _ => ([], .error e)
  | .ok chunk :: rest =>
    let token := if chunk.content = "" then [] else [chunk.content]
    if chunk.isLast then (token, .ok chunk.content)
    else
      let (tokens, text) := consume rest
      (token ++ tokens, text.map (chunk.content ++ ·))

variable {ω : Type}

/-- Ask `provider` for a text and report it as the delivery says. -/
def ask (provider : Provider ω) (request : Request) :
    Delivery → StateM ω (List Signal × Except Error Response)
  | .blocking => do
    return ([.request provider.name false request], ← provider.generate request)
  | .stream => do
    let signal := Signal.request provider.name provider.pieces.isSome request
    match ← provider.stream request with
    | .error e => return ([signal], .error e)
    | .ok pieces =>
      let (tokens, text) := consume pieces
      return (signal :: tokens.map tokenSignal, text.map (Response.ofText provider.name))

/-- Generate the text of `step`. -/
def respond (settings : RunSettings) (providers : Providers ω) (delivery : Delivery)
    (step : Step) : StateM ω (List Signal × Except Error Response) :=
  match providers.resolve (modelOf settings step) with
  | .error e => return ([], .error e)
  | .ok (provider, model) =>
    ask provider ⟨step.prompt, model, temperatureOf settings step⟩ delivery

end Generation

/-- What a run consists of, its steps and its state apart. -/
structure Setting (ω : Type) where
  /-- The settings. -/
  configuration : Configuration
  /-- The providers. -/
  providers : Providers ω
  /-- Whether the providers are called. -/
  mode : RunMode
  /-- How generated text is reported. -/
  delivery : Delivery

/-- The `state` after a generation: the text, its number of characters and the `milliseconds` that
it took. -/
def recordText (state : Variables) (text : String) (milliseconds : Nat) : Variables :=
  ((((state.put Reserved.lastLength (.int text.length)).put Reserved.lastDuration
    (.int milliseconds)).put Reserved.lastText (.string text)).put Reserved.result (.string text))

variable {ω : Type}

/-- Obtain the text of `step`. -/
def Step.respond (setting : Setting ω) (step : Step) :
    StateM ω (List Signal × Except Error Response) :=
  match setting.mode with
  | .simulation =>
    let (signals, response) :=
      Simulation.respond setting.configuration.simulation setting.delivery step
    return (signals, .ok response)
  | .execution =>
    Generation.respond setting.configuration.run setting.providers setting.delivery step

/-- The report that `step` begins. -/
def Step.announcement (step : Step) : Event :=
  if step.isPrompt then .stepBefore step.name else .stepAfter step.name none

/-- Execute `step` in `state`: its inputs are laid over the state, and a generated text is
recorded. -/
def Step.execute (setting : Setting ω) (step : Step) (state : Variables) :
    StateM ω (List Signal × Except Error Variables) := do
  let combined := state.overlay step.inputs
  if step.isPrompt then
    match ← step.respond setting with
    | (signals, .error e) => return (signals, .error e)
    | (signals, .ok response) =>
      return (signals ++ [.event (.ofResponse response)],
        .ok (recordText combined response.text (Signal.total signals)))
  else return ([.event (.stepAfter step.name (some combined))], .ok combined)

end Promptbook
