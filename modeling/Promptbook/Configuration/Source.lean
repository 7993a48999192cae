import Promptbook.Configuration.Layer
import Promptbook.Files.Tree
import Promptbook.Ini.Document
import Promptbook.Json.Reader
import Promptbook.Json.Relaxed
import Promptbook.Ron.Document
import Promptbook.Text.Encoding
import Promptbook.Toml.Document
import Promptbook.Yaml.Document

/-!
# Sources of Settings

Settings are read from files. The extension of a file tells its format; a file may also be named
without its extension.
-/

namespace Promptbook

/-- The format of a file with settings. -/
inductive SettingsFormat where
  /-- Lines of settings under headers, with values of several kinds. -/
  | toml
  /-- JSON. -/
  | json
  /-- Settings in blocks by indentation. -/
  | yaml
  /-- Lines of settings under headers, with texts as values. -/
  | ini
  /-- Records. -/
  | ron
  /-- Relaxed JSON. -/
  | relaxedJson
  deriving DecidableEq, Inhabited

namespace SettingsFormat

/-- The extensions of files in a format. -/
def extensions : SettingsFormat → List String
  | toml => ["toml"]
  | json => ["json"]
  | yaml => ["yaml", "yml"]
  | ini => ["ini"]
  | ron => ["ron"]
  | relaxedJson => ["json5"]

/-- All formats. -/
def all : List SettingsFormat := [toml, json, yaml, ini, ron, relaxedJson]

/-- The format of files with `extension`. -/
def ofExtension? (extension : String) : Option SettingsFormat :=
  all.find? (·.extensions.contains extension)

/-- The value that a text in a format describes. -/
def value? : SettingsFormat → String → Option Value
  | toml, text => Toml.read? text
  | json, text => Json.read? text
  | yaml, text => Yaml.read? text
  | ini, text => Ini.read? text
  | ron, text => Ron.read? text
  | relaxedJson, text => Json.Relaxed.settings? text

/-- The layer that a text in a format describes. -/
def layer? (format : SettingsFormat) (text : String) : Option (Fields Value) :=
  (format.value? text).bind Value.object?

end SettingsFormat

namespace Configuration

/-- Why there are no settings at a location. -/
inductive SourceFault where
  /-- There is no file that can be read. -/
  | missing (detail : String)
  /-- The file does not follow its format. -/
  | malformed (detail : String)
  deriving DecidableEq, Inhabited

/-- The description of a fault. -/
def SourceFault.message : SourceFault → String
  | missing detail => detail
  | malformed detail => detail

/-- The `location` with `extension` at the end of its name. -/
def extended? (location : String) (extension : String) : Option String :=
  (Location.fileName? location).map fun _ =>
    String.ofList (location.toList.reverse.dropWhile (· == '/')).reverse ++ "." ++ extension

/-- The locations with an extension at which the file of `location` may stand, each with the format
of the file there. -/
def extensions (location : String) : List (String × SettingsFormat) :=
  SettingsFormat.all.flatMap fun format =>
    (format.extensions.filterMap (extended? location)).map fun candidate => (candidate, format)

/-- The locations at which a file with settings may stand. -/
def candidates (location : String) : List String :=
  location :: (extensions location).map Prod.fst

/-- Where the file stands that `location` names, with its format: at the location itself, or else at
the first one with an extension at which a file stands. -/
def locate (tree : FileTree) (location : String) : Except SourceFault (String × SettingsFormat) :=
  if tree.isFile location then
    let extension := ((Location.fileName? location).bind Location.extension?).getD ""
    match SettingsFormat.ofExtension? extension with
    | some format => .ok (location, format)
    | none => .error (.missing ("configuration file \"" ++ location
        ++ "\" is not of a registered file format"))
  else
    match (extensions location).find? fun candidate => tree.isFile candidate.1 with
    | some found => .ok found
    | none => .error (.missing ("configuration file \"" ++ location ++ "\" not found"))

/-- The layer at `location`. -/
def layerAt (tree : FileTree) (location : String) : Except SourceFault (Fields Value) := do
  let (file, format) ← locate tree location
  match tree.readBytes file with
  | .error fault => throw (.missing fault.message)
  | .ok bytes =>
    match format.layer? (Text.decode bytes) with
    | some layer => return layer
    | none => throw (.malformed (location ++ " does not follow its format"))

/-- The layer at `location`, where none needs to be. -/
def optionalLayerAt (tree : FileTree) (location : String) :
    Except SourceFault (Fields Value) :=
  match layerAt tree location with
  | .error (.missing _) => .ok []
  | other => other

/-- The configuration that `layer` describes, if it is allowed. -/
def ofLayer (origin : String) (layer : Fields Value) : Except Error Configuration :=
  match read? Layer.reading (.object layer) with
  | some c => c.validate
  | none => .error (.configuration ("Malformed settings in " ++ origin
      ++ ": a setting has a value of the wrong kind"))

/-- The error of settings from `origin` that cannot be read. -/
def unreadable (origin : String) (fault : SourceFault) : Error :=
  .configuration ("Cannot read " ++ origin ++ ": " ++ fault.message)

/-- The configuration in the file at `location`; what it leaves out is as standard. -/
def ofFile (tree : FileTree) (location : String) : Except Error Configuration :=
  match layerAt tree location with
  | .ok layer => ofLayer location (Layer.stack [] layer)
  | .error fault => .error (unreadable location fault)

/-- What the settings of layers together are said to come from. -/
def layersOrigin : String := "bundled and user settings"

/-- The locations at which the files of all layers may stand. -/
def layerCandidates (userFile : Option String) (localFile : String) : List String :=
  userFile.toList.flatMap candidates ++ candidates localFile

/-- The lowest layer. -/
def bundledLayer : Fields Value :=
  (standard.toValue.object?).getD []

/-- The file of the user, below the directory `home`. -/
def userFile (home : String) : String :=
  Location.child home ".config/promptweave/promptweave.toml"

/-- The file in the directory at hand, without its extension. -/
def localFile : String := "promptweave"

/-- The configuration of the bundled settings, the user's and those of the directory at hand, each
over those before. -/
def ofLayers (tree : FileTree) (home : Option String) : Except Error Configuration :=
  let layers := do
    let user ← match home with
      | some home => optionalLayerAt tree (userFile home)
      | none => pure []
    let here ← optionalLayerAt tree localFile
    return Layer.stack (Layer.stack (Layer.stack [] bundledLayer) user) here
  match layers with
  | .ok layer => ofLayer layersOrigin layer
  | .error fault => .error (unreadable layersOrigin fault)

end Configuration

end Promptbook
