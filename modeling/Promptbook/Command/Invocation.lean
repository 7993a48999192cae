import Promptbook.Command.Assignment
import Promptbook.Command.LogFormat

/-!
# Invocations

What the words of a command line ask for.
-/

namespace Promptbook

/-- The workflow that a command works on. -/
structure SourceArguments where
  /-- The file of the workflow. -/
  file : String
  /-- The inputs, in the order in which they are given. -/
  inputs : List (String × Value)
  /-- The text that stands for every generated one. -/
  mock : Option String
  deriving DecidableEq, Inhabited

/-- A command. -/
inductive Command where
  /-- Show the steps of a workflow. -/
  | plan (source : SourceArguments) (json : Bool)
  /-- Run a workflow without generating text. -/
  | run (source : SourceArguments) (stream : Bool) (config : Option String)
  deriving DecidableEq, Inhabited

/-- A command and what holds for all commands. -/
structure Invocation where
  /-- Whether the log tells more. -/
  verbose : Bool
  /-- The form of the log. -/
  logFormat : LogFormat
  /-- The command. -/
  command : Command
  deriving DecidableEq, Inhabited

/-- Why the words of a command line ask for no command. -/
inductive UsageFault where
  /-- They ask for help. -/
  | displayHelp
  /-- They ask for the version. -/
  | displayVersion
  /-- There are none. -/
  | nothingGiven
  /-- No command is named. -/
  | missingCommand
  /-- A command is named that does not exist. -/
  | unknownCommand
  /-- A word is one too many, or an option does not exist. -/
  | unknownArgument
  /-- An option has no value. -/
  | missingValue
  /-- The value of an option is not allowed. -/
  | invalidValue
  /-- An option is given twice. -/
  | repeatedOption
  /-- An option has a value and takes none. -/
  | superfluousValue
  /-- The file of the workflow is not named. -/
  | missingFile
  deriving DecidableEq, Inhabited

namespace UsageFault

/-- The name of the kind of a fault. -/
def name : UsageFault → String
  | displayHelp => "DisplayHelp"
  | displayVersion => "DisplayVersion"
  | nothingGiven => "DisplayHelpOnMissingArgumentOrSubcommand"
  | missingCommand => "MissingSubcommand"
  | unknownCommand => "InvalidSubcommand"
  | unknownArgument => "UnknownArgument"
  | missingValue => "InvalidValue"
  | invalidValue => "ValueValidation"
  | repeatedOption => "ArgumentConflict"
  | superfluousValue => "TooManyValues"
  | missingFile => "MissingRequiredArgument"

end UsageFault

end Promptbook
