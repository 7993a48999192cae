import Promptbook.Command.Invocation
import Promptbook.Command.Report
import Promptbook.Configuration.Source
import Promptbook.Retrieval.Library

/-!
# Commands at Work

What a command does in its surroundings, as a value: the texts that it shows, the pauses between
them, and why it failed if it did.
-/

namespace Promptbook

/-- The surroundings of a command. -/
structure Surroundings where
  /-- The files. -/
  tree : FileTree
  /-- The home directory, if it is known. -/
  home : Option String

/-- What a command has done. -/
structure CommandResult where
  /-- What it did to the outside, in this order. -/
  emissions : List Emission
  /-- Why it failed, if it did. -/
  failure : Option Error
  /-- The locations of the corpora that it asked for. -/
  asked : List String

namespace CommandResult

/-- The result of a command that failed with `e` before it did anything. -/
def failed (e : Error) : CommandResult := ⟨[], some e, []⟩

end CommandResult

/-- The corpora that a command has read, and the locations that it asked for. -/
structure Desk where
  /-- The corpora. -/
  library : Library
  /-- The locations, the last one first. -/
  asked : List String

namespace Desk

/-- A desk at which nothing has been read. -/
def clear : Desk := ⟨[], []⟩

/-- The source of examples at a desk. -/
def retriever (tree : FileTree) : Retriever Desk := fun query count location desk =>
  let (texts, library) := Library.retrieve tree query count location desk.library
  (texts, ⟨library, location :: desk.asked⟩)

end Desk

namespace Command

/-- The directive that states `text` in place of every generated one. -/
def stateText {ω : Type} (text : String) (call : Call) : StateM ω Reply :=
  return { call.answer none with
    outputs := (call.context.setOutput Reserved.result (.string text)).outputs }

/-- The options of planning; `mock` is the text to state in place of every generated one. -/
def options (tree : FileTree) (mock : Option String) : Options Desk :=
  { awaited := []
    immediate := (mock.map fun text => (Hook.trailing.name, stateText text)).toList
    retriever := some (Desk.retriever tree) }

/-- Read and plan the workflow of `source`. -/
def compile (tree : FileTree) (source : SourceArguments) : Except Error (Plan × Desk) :=
  match tree.readText source.file with
  | .error fault => .error (.unreadable source.file fault.message)
  | .ok text =>
    .ok ((Plan.ofSource text (Assignment.collect source.inputs)
      (options tree source.mock)).run .clear)

/-- The configuration of a run. -/
def configuration (surroundings : Surroundings) : Option String → Except Error Configuration
  | some location => Configuration.ofFile surroundings.tree location
  | none => Configuration.ofLayers surroundings.tree surroundings.home

/-- Show the steps of the workflow of `source`. -/
def showPlan (surroundings : Surroundings) (source : SourceArguments) (json : Bool) :
    CommandResult :=
  match compile surroundings.tree source with
  | .error e => .failed e
  | .ok (planned, desk) =>
    let shown := if json then [.line (Json.indented planned.toValue)] else Report.plan planned
    ⟨Report.warnings planned ++ shown, none, desk.asked⟩

/-- The setting of a run without providers. -/
def simulation (configuration : Configuration) (delivery : Delivery) : Setting Unit :=
  ⟨configuration, [], .simulation, delivery⟩

/-- Run the workflow of `source` without generating text. -/
def runWorkflow (surroundings : Surroundings) (source : SourceArguments) (stream : Bool)
    (config : Option String) : CommandResult :=
  match configuration surroundings config with
  | .error e => .failed e
  | .ok configuration =>
    match compile surroundings.tree source with
    | .error e => .failed e
    | .ok (planned, desk) =>
      let delivery : Delivery := if stream then .stream else .blocking
      let (record, _) := (Workflow.run (simulation configuration delivery) planned.steps
        (Assignment.collect source.inputs)).run ()
      ⟨Report.warnings planned ++ Report.run delivery record, none, desk.asked⟩

/-- The workflow that a command works on. -/
def source : Command → SourceArguments
  | plan source _ => source
  | run source _ _ => source

/-- The locations at which settings of a command may stand. -/
def settingsLocations (home : Option String) : Command → List String
  | plan _ _ => []
  | run _ _ (some location) => Configuration.candidates location
  | run _ _ none =>
    Configuration.layerCandidates (home.map Configuration.userFile) Configuration.localFile

/-- The locations of the files that `command` may read, corpora apart. -/
def locations (home : Option String) (command : Command) : List String :=
  command.source.file :: command.settingsLocations home

/-- Do what a command asks for. -/
def execute (surroundings : Surroundings) : Command → CommandResult
  | plan source json => showPlan surroundings source json
  | run source stream config => runWorkflow surroundings source stream config

end Command

end Promptbook
