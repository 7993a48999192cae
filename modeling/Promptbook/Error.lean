/-!
# Errors

Every way in which planning, running, retrieval and the command line can fail, with its message.
-/

namespace Promptbook

/-- The part of the program that an error belongs to. -/
inductive Area where
  /-- Templates and their rendering. -/
  | template
  /-- The directives. -/
  | directive
  /-- The providers of generated text. -/
  | provider
  /-- The running of workflows. -/
  | runtime
  /-- The retrieval of examples. -/
  | retrieval
  /-- The settings. -/
  | configuration
  /-- JSON text. -/
  | json
  /-- Files. -/
  | file
  deriving DecidableEq, Inhabited

/-- The heading of errors of an area. -/
def Area.title : Area → String
  | template => "Template Error"
  | directive => "Directive Error"
  | provider => "Provider Error"
  | runtime => "Runtime Error"
  | retrieval => "Retrieval Error"
  | configuration => "Configuration Error"
  | json => "JSON Error"
  | file => "IO Error"

/-- What went wrong. -/
inductive Error where
  /-- A template that cannot be read. -/
  | templateSyntax (detail : String)
  /-- The arguments of the directive `tag` do not follow their grammar. -/
  | templateArguments (tag detail : String)
  /-- A template that cannot be rendered. -/
  | rendering (detail : String)
  /-- The declaration of `field` cannot be understood. -/
  | fieldSpec (field detail : String)
  /-- The directive `tag` lacks `argument`. -/
  | missingArgument (tag argument : String)
  /-- The directive `tag` failed. -/
  | directiveFailed (tag detail : String)
  /-- No provider is responsible for `model`. -/
  | unsupportedModel (model : String)
  /-- The `provider` could not generate text. -/
  | generation (provider detail : String)
  /-- The `provider` failed in the middle of a text. -/
  | stream (provider detail : String)
  /-- A workflow without a step to start with. -/
  | noPromptStep
  /-- A jump to the step `name`, which does not exist. -/
  | stepNotFound (name : String)
  /-- A run of more than `limit` steps. -/
  | stepLimit (limit : Nat)
  /-- The corpus `source` does not exist. -/
  | corpusNotFound (source : String)
  /-- The corpus at `path` cannot be read. -/
  | corpusUnreadable (path detail : String)
  /-- Settings that are not allowed. -/
  | configuration (detail : String)
  /-- A value without a JSON form. -/
  | json (detail : String)
  /-- A file that cannot be used. -/
  | file (detail : String)
  deriving DecidableEq, Inhabited

namespace Error

/-- The area that an error belongs to. -/
def area : Error → Area
  | templateSyntax _ | templateArguments _ _ | rendering _ => .template
  | fieldSpec _ _ | missingArgument _ _ | directiveFailed _ _ => .directive
  | unsupportedModel _ | generation _ _ | stream _ _ => .provider
  | noPromptStep | stepNotFound _ | stepLimit _ => .runtime
  | corpusNotFound _ | corpusUnreadable _ _ => .retrieval
  | configuration _ => .configuration
  | json _ => .json
  | file _ => .file

/-- The message of an error. -/
def message : Error → String
  | templateSyntax detail => "Template syntax error: " ++ detail
  | templateArguments tag detail => "Invalid arguments for tag '" ++ tag ++ "': " ++ detail
  | rendering detail => "Render failed: " ++ detail
  | fieldSpec field detail => "Invalid spec for field '" ++ field ++ "': " ++ detail
  | missingArgument tag argument => "Tag '" ++ tag ++ "' requires argument '" ++ argument ++ "'"
  | directiveFailed tag detail => "Tag '" ++ tag ++ "' failed: " ++ detail
  | unsupportedModel model =>
    "Unsupported model provider: " ++ model ++ ". Model identifiers must be prefixed with a "
      ++ "registered provider (e.g. 'openai/', 'anthropic/')"
  | generation provider detail => "Provider '" ++ provider ++ "' failed: " ++ detail
  | stream provider detail => "Provider '" ++ provider ++ "' stream failed: " ++ detail
  | noPromptStep => "No PROMPT steps found in workflow"
  | stepNotFound name => "Could not find next step: " ++ name
  | stepLimit limit => "Step limit of " ++ toString limit ++ " exceeded"
  | corpusNotFound source => "Example corpus not found: " ++ source
  | corpusUnreadable path detail => "Failed to read '" ++ path ++ "': " ++ detail
  | configuration detail => detail
  | json detail => detail
  | file detail => detail

/-- The message of `e` under the heading of its area. -/
def display (e : Error) : String :=
  "Promptweave Error: " ++ e.area.title ++ ": " ++ e.message

/-- The error of the file at `path` that cannot be read. -/
def unreadable (path detail : String) : Error :=
  file ("Failed to read " ++ path ++ ": " ++ detail)

end Error

end Promptbook
