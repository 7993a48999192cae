import Promptbook.Command.Invocation

/-!
# Reading Command Lines

The words of a command line are read one by one. A value that stands as a word of its own behind its
option is checked only when the next option or value is read, so of two faults the later one may be
reported.
-/

namespace Promptbook.Usage

/-- Where a word stands: before the command, or behind one. -/
inductive Level where
  /-- Before the command. -/
  | top
  /-- Behind the command that shows steps. -/
  | plan
  /-- Behind the command that runs a workflow. -/
  | run
  deriving DecidableEq

/-- An option without a value. -/
inductive Switch where
  /-- The log tells more. -/
  | verbose
  /-- The plan is shown as JSON. -/
  | json
  /-- The text is reported in pieces. -/
  | stream
  /-- Help is asked for. -/
  | help
  /-- The version is asked for. -/
  | version
  deriving DecidableEq

/-- A place for a value. -/
inductive Slot where
  /-- The file of the workflow. -/
  | file
  /-- An input. -/
  | input
  /-- The text that stands for every generated one. -/
  | mock
  /-- The file with settings. -/
  | config
  /-- The form of the log. -/
  | logFormat
  deriving DecidableEq

/-- An option. -/
inductive Choice where
  /-- An option without a value. -/
  | switch (s : Switch)
  /-- An option with a value. -/
  | slot (s : Slot)
  deriving DecidableEq

/-- The options with long names at a level. -/
def longNames : Level → List (String × Choice)
  | .top => [("verbose", .switch .verbose), ("log-format", .slot .logFormat),
      ("help", .switch .help), ("version", .switch .version)]
  | .plan => [("verbose", .switch .verbose), ("log-format", .slot .logFormat),
      ("help", .switch .help), ("input", .slot .input), ("mock", .slot .mock),
      ("json", .switch .json)]
  | .run => [("verbose", .switch .verbose), ("log-format", .slot .logFormat),
      ("help", .switch .help), ("input", .slot .input), ("mock", .slot .mock),
      ("stream", .switch .stream), ("config", .slot .config)]

/-- The options with one-letter names at a level. -/
def shortNames : Level → List (Char × Choice)
  | .top => [('v', .switch .verbose), ('h', .switch .help), ('V', .switch .version)]
  | .plan | .run => [('v', .switch .verbose), ('h', .switch .help), ('i', .slot .input)]

/-- What has been given at a level. -/
structure Given where
  /-- The options without values. -/
  switches : List Switch
  /-- The file of the workflow. -/
  file : Option String
  /-- The inputs. -/
  inputs : List (String × Value)
  /-- The text that stands for every generated one. -/
  mock : Option String
  /-- The file with settings. -/
  config : Option String
  /-- The form of the log. -/
  logFormat : Option LogFormat

/-- Nothing. -/
def Given.nothing : Given := ⟨[], none, [], none, none, none⟩

/-- Whether nothing has been given. -/
def Given.isNothing (g : Given) : Bool :=
  g.switches.isEmpty && g.file.isNone && g.inputs.isEmpty && g.mock.isNone && g.config.isNone
    && g.logFormat.isNone

/-- The name of a file, which may not be empty. -/
def fileName (text : String) : Except UsageFault String :=
  if text.isEmpty then .error .missingValue else .ok text

/-- Fail if an option has been given before. -/
def once {α : Type} (former : Option α) : Except UsageFault Unit :=
  if former.isSome then .error .repeatedOption else .ok ()

/-- What has been given, with a value in its place. -/
def Given.fill (g : Given) (slot : Slot) (text : String) : Except UsageFault Given :=
  match slot with
  | .file => return { g with file := some (← fileName text) }
  | .input =>
    match Assignment.read text with
    | .ok assignment => return { g with inputs := g.inputs ++ [assignment] }
    | .error _ => throw .invalidValue
  | .mock => do
    once g.mock
    return { g with mock := some text }
  | .config => do
    once g.config
    return { g with config := some (← fileName text) }
  | .logFormat => do
    once g.logFormat
    match LogFormat.read? text with
    | some format => return { g with logFormat := some format }
    | none => throw .invalidValue

/-- What has been given, with an option without a value. -/
def Given.turnOn (g : Given) : Switch → Except UsageFault Given
  | .help => throw .displayHelp
  | .version => throw .displayVersion
  | switch =>
    if g.switches.contains switch then throw .repeatedOption
    else return { g with switches := g.switches ++ [switch] }

/-- How far the words have been read. -/
structure Progress where
  /-- What has been given and checked. -/
  given : Given
  /-- A place whose value is not checked yet or still to come. -/
  pending : Option (Slot × Option String)
  /-- Whether all further words are values. -/
  valuesOnly : Bool

namespace Progress

/-- Before the first word. -/
def start : Progress := ⟨.nothing, none, false⟩

/-- Check the value that has not been checked yet. -/
def settle (p : Progress) : Except UsageFault Progress :=
  match p.pending with
  | none => return p
  | some (_, none) => throw .missingValue
  | some (slot, some text) => return { p with given := ← p.given.fill slot text, pending := none }

/-- Whether the option in front of the next word waits for its value. Once all words are values it
waits in vain. -/
def awaits (p : Progress) : Bool :=
  match p.pending with
  | some (_, none) => !p.valuesOnly
  | _ => false

/-- Take an option without a value. -/
def turnOn (p : Progress) (switch : Switch) : Except UsageFault Progress := do
  let p ← p.settle
  return { p with given := ← p.given.turnOn switch }

/-- Take an option with a value, which may be attached to it. -/
def openSlot (p : Progress) (slot : Slot) : Option String → Except UsageFault Progress
  | some text => do
    let p ← p.settle
    return { p with given := ← p.given.fill slot text }
  | none => return { ← p.settle with pending := some (slot, none) }

/-- Take a long option, with the value attached to it. -/
def takeLong (level : Level) (p : Progress) (name : String) (value : Option String) :
    Except UsageFault Progress :=
  match (longNames level).lookup name, value with
  | none, _ => throw .unknownArgument
  | some (.slot slot), value => p.openSlot slot value
  | some (.switch _), some _ => throw .superfluousValue
  | some (.switch switch), none => p.turnOn switch

/-- The value attached to a one-letter option. -/
def attached : List Char → Option String
  | [] => none
  | '=' :: rest => some (String.ofList rest)
  | rest => some (String.ofList rest)

/-- Take one-letter options from a word. -/
def takeShort (level : Level) : Progress → List Char → Except UsageFault Progress
  | p, [] => return p
  | p, c :: rest =>
    match (shortNames level).lookup c with
    | none => throw .unknownArgument
    | some (.slot slot) => p.openSlot slot (attached rest)
    | some (.switch switch) => do takeShort level (← p.turnOn switch) rest

/-- Take a word that is a value: that of the option in front of it, if that one still waits for its
value, and else the file of the workflow. -/
def takeValue (level : Level) (p : Progress) (word : String) : Except UsageFault Progress :=
  if p.awaits then
    return { p with pending := p.pending.map fun (slot, _) => (slot, some word) }
  else if level = .top then
    throw (if p.valuesOnly && ["plan", "run", "help"].contains word then .unknownArgument
      else .unknownCommand)
  else if p.given.file.isSome || p.pending.any (·.1 = .file) then throw .unknownArgument
  else return { ← p.settle with pending := some (.file, some word) }

/-- The name and the value of a long option. -/
def splitLong (word : List Char) : String × Option String :=
  match word.dropWhile (· != '=') with
  | [] => (String.ofList word, none)
  | _ :: value => (String.ofList (word.takeWhile (· != '=')), some (String.ofList value))

/-- Take a word. -/
def take (level : Level) (p : Progress) (word : String) : Except UsageFault Progress :=
  if p.valuesOnly then p.takeValue level word
  else match word.toList with
    | ['-', '-'] => return { p with valuesOnly := true }
    | '-' :: '-' :: rest =>
      let (name, value) := splitLong rest
      p.takeLong level name value
    | '-' :: c :: rest => p.takeShort level (c :: rest)
    | _ => p.takeValue level word

end Progress

/-- What the words behind a command give. -/
def readCommand (level : Level) (words : List String) : Except UsageFault Given := do
  let p ← words.foldlM (Progress.take level) .start
  let given := (← p.settle).given
  if given.file.isNone then throw .missingFile
  return given

/-- The workflow that has been named. -/
def Given.source (g : Given) : SourceArguments :=
  ⟨g.file.getD "", g.inputs, g.mock⟩

/-- The invocation with a command. -/
def invocation (top behind : Given) (command : Command) : Invocation :=
  { verbose := top.switches.contains .verbose || behind.switches.contains .verbose
    logFormat := (behind.logFormat.or top.logFormat).getD .pretty
    command := command }

/-- Read the words behind the name of a command, if the word is one. -/
def readNamed (p : Progress) (name : String) (words : List String) :
    Option (Except UsageFault Invocation) :=
  match name with
  | "plan" => some do
    let given ← readCommand .plan words
    let top := (← p.settle).given
    return invocation top given (.plan given.source (given.switches.contains .json))
  | "run" => some do
    let given ← readCommand .run words
    let top := (← p.settle).given
    return invocation top given
      (.run given.source (given.switches.contains .stream) given.config)
  | "help" =>
    some (throw (match words with
      | [] => .displayHelp
      | [word] =>
        if ["plan", "run", "help"].contains word then .displayHelp else .unknownCommand
      | _ => .unknownCommand))
  | _ => none

/-- Read words up to the command. -/
def readFrom (p : Progress) : List String → Except UsageFault Invocation
  | [] => do
    let given := (← p.settle).given
    throw (if given.isNothing then .nothingGiven else .missingCommand)
  | word :: words =>
    match if p.valuesOnly || p.awaits then none else readNamed p word words with
    | some result => result
    | none => do readFrom (← p.take .top word) words

/-- The invocation that the words of a command line ask for. -/
def read (words : List String) : Except UsageFault Invocation :=
  readFrom .start words

end Promptbook.Usage
