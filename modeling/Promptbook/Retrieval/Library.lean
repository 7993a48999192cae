import Promptbook.Error
import Promptbook.Files.Tree
import Promptbook.Retrieval.Corpus

/-!
# The Library of Corpora

Corpora are directories of text files. A library keeps every corpus that it has read, under the
location from which it was read, and does not read it again until it is told to forget it.
-/

namespace Promptbook

namespace Corpus

/-- The extensions of the files that make up a corpus. -/
def extensions : List String := ["txt", "md"]

/-- Whether a file called `name` belongs to a corpus. -/
def isDocumentName (name : String) : Bool :=
  (Location.extension? name).any fun extension =>
    extensions.any (Text.equalIgnoringAsciiCase extension)

/-- Read the corpus in the directory at `location`: its text files, in the order of their names. It
fails if there is no directory, if the names in it cannot be listed, or at the first of the files
that cannot be read. -/
def ofDirectory (tree : FileTree) (location : String) : Except Error Corpus :=
  if tree.isDirectory location then
    match tree.fileNames location with
    | .error fault => .error (.corpusUnreadable location fault.message)
    | .ok found =>
      let names := (found.filter isDocumentName).mergeSort fun a b => !(b < a)
      names.mapM fun name =>
        let file := Location.child location name
        match tree.readText file with
        | .ok text => .ok ⟨file, text⟩
        | .error fault => .error (.corpusUnreadable file fault.message)
  else .error (.corpusNotFound location)

end Corpus

/-- The corpora that have been read, each with the location under which it was asked for first. -/
abbrev Library := List (String × Corpus)

namespace Library

/-- The corpus kept for a location. -/
def find? : Library → String → Option Corpus
  | [], _ => none
  | entry :: rest, location =>
    if Location.same entry.1 location then some entry.2 else find? rest location

/-- The corpus at `location`: the kept one, or the one that can be read from `tree` now, which is
then kept. -/
def corpus (tree : FileTree) (location : String) : StateM Library (Except Error Corpus) :=
  fun library =>
    match library.find? location with
    | some corpus => (.ok corpus, library)
    | none =>
      match Corpus.ofDirectory tree location with
      | .ok corpus => (.ok corpus, (location, corpus) :: library)
      | .error e => (.error e, library)

/-- Forget the corpus kept for `location`. -/
def forget (library : Library) (location : String) : Library :=
  library.filter fun entry => !Location.same entry.1 location

/-- Forget the corpus kept for `location`, and say whether there was one. -/
def evict (location : String) : StateM Library Bool :=
  fun library => ((library.find? location).isSome, library.forget location)

/-- Forget all corpora. -/
def clear : StateM Library Unit :=
  fun _ => ((), [])

/-- The locations for which `library` keeps a corpus, sorted. -/
def locations (library : Library) : List String :=
  (library.map Prod.fst).mergeSort Location.notAfter

/-- At most `count` texts of the corpus at `location`, those most similar to `query` first. -/
def retrieve (tree : FileTree) (query : String) (count : Nat) (location : String) :
    StateM Library (Except Error (List String)) := do
  match ← corpus tree location with
  | .ok documents => return .ok ((documents.search query count).map Document.text)
  | .error e => return .error e

end Library

end Promptbook
