import Promptbook.Command.Handler
import Promptbook.Command.Usage

/-!
# The Command Line

Brings the files that a command may read into a tree, lets the command work on the tree, and shows
what it did. Corpora are brought in when the command has asked for them, and the command is then
started again before anything is shown.
-/

namespace Promptbook.CommandLine

/-- What is shown when help is asked for. -/
def helpText : String :=
  "Compile Liquid prompt templates into LLM workflows and run them\n\n"
    ++ "Usage: promptweave [OPTIONS] <COMMAND>\n\n"
    ++ "Commands:\n"
    ++ "  plan  Compile a workflow file and print its steps\n"
    ++ "  run   Run a workflow file in simulation mode\n"
    ++ "  help  Print this message\n\n"
    ++ "Options:\n"
    ++ "  -v, --verbose                  Enable verbose logging\n"
    ++ "      --log-format <LOG_FORMAT>  Log line format (pretty or json)\n"
    ++ "  -h, --help                     Print help\n"
    ++ "  -V, --version                  Print version\n"

/-- What is shown when the version is asked for. -/
def versionText : String := "promptweave 0.1.0\n"

/-- The fault that stands in a tree for an error of the system. -/
def faultOf : IO.Error → ReadFault
  | .permissionDenied .. => .denied
  | _ => .device

/-- Bring what stands at a location into a tree: a file with its bytes, or with the fault that
reading them meets. -/
def bringFile (tree : FileTree) (location : String) : IO FileTree := do
  let place := tree.placeOf location
  try
    return tree.add place (.file (← IO.FS.readBinFile location))
  catch e =>
    let path ← try some <$> IO.FS.realPath location catch _ => pure none
    match path with
    | none => return tree
    | some path =>
      if ← path.isDir then return tree.addDirectories place
      else if ← path.pathExists then
        return (tree.add place (.file .empty)).withhold place (faultOf e)
      else return tree

/-- Bring the directory at a location and its files into a tree, or the directory with the fault
that listing them meets. -/
def bringDirectory (tree : FileTree) (location : String) : IO FileTree := do
  let place := tree.placeOf location
  try
    let found ← (← IO.FS.realPath location).readDir
    found.foldlM (fun tree entry => bringFile tree (Location.child location entry.fileName))
      (tree.addDirectories place)
  catch e =>
    let tree ← bringFile tree location
    if tree.isDirectory location then return tree.withhold place (faultOf e) else return tree

/-- Let a command work until it asks for no other corpus; `fuel` bounds how often it is started. -/
def work (home : Option String) (command : Command) :
    (fuel : Nat) → FileTree → List String → IO CommandResult
  | 0, tree, _ => return command.execute ⟨tree, home⟩
  | fuel + 1, tree, known => do
    let result := command.execute ⟨tree, home⟩
    let wanted := result.asked.filter fun location => !known.contains location
    if wanted.isEmpty then return result
    else
      let tree ← wanted.foldlM bringDirectory tree
      work home command fuel tree (wanted ++ known)

/-- Show what a command did. -/
def emit : Emission → IO Unit
  | .out text => do
    let stdout ← IO.getStdout
    stdout.putStr text
    stdout.flush
  | .err text => IO.eprint text
  | .pause milliseconds => IO.sleep milliseconds.toUInt32

/-- Do what an invocation asks for; the answer is the exit code. -/
def perform (invocation : Invocation) : IO UInt32 := do
  let home ← IO.getEnv "HOME"
  let here := (← IO.currentDir).toString
  let top : FileTree := .empty
  let place := top.placeOf here
  let tree : FileTree := { top.addDirectories place with here := place }
  let tree ← (invocation.command.locations home).foldlM bringFile tree
  let result ← work home invocation.command 64 tree []
  result.emissions.forM emit
  match result.failure with
  | none => return 0
  | some e => do
    IO.eprintln ("Error: " ++ e.display)
    return 1

/-- Answer words that ask for no command. -/
def refuse : UsageFault → IO UInt32
  | .displayHelp => do
    IO.print helpText
    return 0
  | .displayVersion => do
    IO.print versionText
    return 0
  | .nothingGiven => do
    IO.eprint helpText
    return 2
  | fault => do
    IO.eprintln ("error: " ++ fault.name)
    return 2

end Promptbook.CommandLine

/-- Do what the words of the command line ask for. -/
def main (words : List String) : IO UInt32 :=
  match Promptbook.Usage.read words with
  | .ok invocation => Promptbook.CommandLine.perform invocation
  | .error fault => Promptbook.CommandLine.refuse fault
