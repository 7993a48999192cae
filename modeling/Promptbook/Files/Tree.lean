import Promptbook.Data.Fields
import Promptbook.Files.Location

/-!
# Trees of Files

The files and directories that a program sees, as a value. A place in a tree is given by the names
on the way from its top; locations that do not start at the top start at the directory at hand.

What stands at a place need not be readable: a tree notes the places whose contents cannot be read,
and the directories that cannot be passed.
-/

namespace Promptbook

/-- What stands at a place of a tree. -/
inductive FileEntry where
  /-- A file with its bytes. -/
  | file (bytes : ByteArray)
  /-- A directory. -/
  | directory
  deriving Inhabited

/-- Why what a location names cannot be read. -/
inductive ReadFault where
  /-- Nothing stands there. -/
  | missing
  /-- The way leads through a file. -/
  | throughFile
  /-- A directory stands there. -/
  | directory
  /-- A name is longer than names may be. -/
  | longName
  /-- The location holds a null character. -/
  | nullCharacter
  /-- The bytes are no text. -/
  | notText
  /-- The program has no right to read what stands there, or to go on behind a directory on the
  way. -/
  | denied
  /-- The device fails while it is read. -/
  | device
  deriving DecidableEq, Inhabited

/-- The message of a fault. -/
def ReadFault.message : ReadFault → String
  | missing => "No such file or directory (os error 2)"
  | throughFile => "Not a directory (os error 20)"
  | directory => "Is a directory (os error 21)"
  | longName => "File name too long (os error 36)"
  | nullCharacter => "file name contained an unexpected NUL byte"
  | notText => "stream did not contain valid UTF-8"
  | denied => "Permission denied (os error 13)"
  | device => "Input/output error (os error 5)"

/-- A tree of files. -/
structure FileTree where
  /-- The places below the top, each with what stands there. -/
  entries : List (List String × FileEntry)
  /-- The place of the directory at hand. -/
  here : List String
  /-- The places whose contents cannot be read, each with the fault that reading them meets. The
  contents of a file are its bytes, those of a directory the names in it. -/
  faults : List (List String × ReadFault) := []
  /-- The directories that no way may lead through. -/
  closed : List (List String) := []

namespace FileTree

/-- The tree without files, with its top at hand. -/
def empty : FileTree := { entries := [], here := [] }

/-- What a list of places has for `place`. -/
def lookup {α : Type} : List (List String × α) → List String → Option α
  | [], _ => none
  | item :: rest, place => if item.1 = place then some item.2 else lookup rest place

/-- What stands at `place`; the top is a directory. -/
def occupant? (tree : FileTree) (place : List String) : Option FileEntry :=
  if place = [] then some .directory else lookup tree.entries place

/-- The fault that reading the contents at `place` meets. -/
def fault? (tree : FileTree) (place : List String) : Option ReadFault :=
  lookup tree.faults place

/-- The tree without what stands at `place` and below it. -/
def remove (tree : FileTree) (place : List String) : FileTree :=
  { tree with
    entries := tree.entries.filter fun item => !place.isPrefixOf item.1
    faults := tree.faults.filter fun item => !place.isPrefixOf item.1
    closed := tree.closed.filter fun other => !place.isPrefixOf other }

/-- The tree with `entry` at `place`. -/
def put (tree : FileTree) (place : List String) (entry : FileEntry) : FileTree :=
  { tree with entries := (place, entry) :: tree.entries.filter fun item => item.1 != place }

/-- The tree with directories at all places on the way to `place` and at this place. -/
def addDirectories (tree : FileTree) (place : List String) : FileTree :=
  (List.range place.length).foldl
    (fun tree n =>
      let p := place.take (n + 1)
      if (tree.occupant? p).isSome then tree else tree.put p .directory) tree

/-- The tree with `entry` at `place` and directories on the way to it. -/
def add (tree : FileTree) (place : List String) (entry : FileEntry) : FileTree :=
  (tree.addDirectories place.dropLast).put place entry

/-- The tree with contents at `place` that cannot be read, since reading them meets `fault`. -/
def withhold (tree : FileTree) (place : List String) (fault : ReadFault) : FileTree :=
  { tree with faults := (place, fault) :: tree.faults }

/-- The place that parts of a location lead to, from `place`. Every part but the root must start
from a directory that is not closed. -/
def walk (tree : FileTree) : List String → List LocationPart → Except ReadFault (List String)
  | place, [] => .ok place
  | place, part :: rest =>
    match tree.occupant? place with
    | none => .error .missing
    | some (.file _) => .error .throughFile
    | some .directory =>
      match part, tree.closed.contains place with
      | .root, _ => tree.walk [] rest
      | _, true => .error .denied
      | .here, false => tree.walk place rest
      | .above, false => tree.walk place.dropLast rest
      | .name s, false =>
        if 255 < s.utf8ByteSize then .error .longName else tree.walk (place ++ [s]) rest

/-- The place that parts of a location name, from a place, whatever stands on the way. -/
def placeFrom : List String → List LocationPart → List String
  | place, [] => place
  | _, .root :: rest => placeFrom [] rest
  | place, .here :: rest => placeFrom place rest
  | place, .above :: rest => placeFrom place.dropLast rest
  | place, .name s :: rest => placeFrom (place ++ [s]) rest

/-- The place that `location` names. -/
def placeOf (tree : FileTree) (location : String) : List String :=
  placeFrom tree.here (Location.parts location)

/-- Whether `location` ends in a way that only a directory allows. -/
def wantsDirectory (location : String) : Bool :=
  location.endsWith "/" || location.endsWith "/."

/-- The place that `location` leads to, with what stands there. -/
def find (tree : FileTree) (location : String) : Except ReadFault (List String × FileEntry) := do
  if location == "" then throw .missing
  if location.toList.contains '\x00' then throw .nullCharacter
  let place ← tree.walk tree.here (Location.parts location)
  match tree.occupant? place with
  | none => throw .missing
  | some (.file bytes) =>
    if wantsDirectory location then throw .throughFile else return (place, .file bytes)
  | some .directory => return (place, .directory)

/-- The bytes of the file at `location`. -/
def readBytes (tree : FileTree) (location : String) : Except ReadFault ByteArray := do
  let (place, entry) ← tree.find location
  match tree.fault? place, entry with
  | some fault, _ => throw fault
  | none, .directory => throw .directory
  | none, .file bytes => return bytes

/-- The text of the file at `location`. -/
def readText (tree : FileTree) (location : String) : Except ReadFault String := do
  match String.fromUTF8? (← tree.readBytes location) with
  | some text => return text
  | none => throw .notText

/-- Whether a file stands at `location`, be it readable or not. -/
def isFile (tree : FileTree) (location : String) : Bool :=
  match tree.find location with
  | .ok (_, .file _) => true
  | _ => false

/-- Whether a directory stands at `location`, be it readable or not. -/
def isDirectory (tree : FileTree) (location : String) : Bool :=
  match tree.find location with
  | .ok (_, .directory) => true
  | _ => false

/-- The names of the files that stand directly in the directory at `location`. The files need not be
readable, only the directory. -/
def fileNames (tree : FileTree) (location : String) : Except ReadFault (List String) := do
  let (place, entry) ← tree.find location
  match entry, tree.fault? place with
  | .file _, _ => throw .throughFile
  | .directory, some fault => throw fault
  | .directory, none =>
    return tree.entries.filterMap fun item =>
      match item.2, item.1.reverse with
      | .file _, name :: parent => if parent.reverse = place then some name else none
      | _, _ => none

end FileTree

end Promptbook
