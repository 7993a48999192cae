import Promptbook.Toml.Scalar
import Promptbook.Toml.Table
import Promptbook.Toml.Text

/-!
# TOML Documents

Reads values, and documents line by line.
-/

namespace Promptbook.Toml

/-- How many arrays and tables may be open at once inside a value. -/
def depthLimit : Nat := 80

/-- How many names may be joined by points. -/
def pathLimit : Nat := 80

/-- Read names with points between them, if they are not too many. -/
def path? (s : List Char) : Option (List String × List Char) :=
  (key? s).filter fun (names, _) => names.length ≤ pathLimit

mutual

/-- Read a value inside of which `depth` arrays and tables may be open; `fuel` bounds how often the
readers of values call each other. -/
def valueWithin? : (fuel depth : Nat) → List Char → Option (Value × List Char)
  | 0, _, _ => none
  | fuel + 1, depth, s =>
    match s, depth with
    | '[' :: _, 0 | '\x7b' :: _, 0 => none
    | '[' :: rest, depth + 1 =>
      (itemsWithin? fuel depth (dropLines rest)).map fun (vs, rest) => (.array vs, rest)
    | '\x7b' :: rest, depth + 1 =>
      (membersWithin? fuel depth [] (dropLines rest)).map fun (entries, rest) =>
        (entries.toValue, rest)
    | s, _ => ((text? s).map fun (t, rest) => (Value.string t, rest)).or (scalar? s)

/-- Read the items of an array and its closing bracket. -/
def itemsWithin? : (fuel depth : Nat) → List Char → Option (List Value × List Char)
  | 0, _, _ => none
  | fuel + 1, depth, s =>
    match s with
    | ']' :: rest => some ([], rest)
    | s => do
      let (v, rest) ← valueWithin? fuel depth s
      match dropLines rest with
      | ',' :: rest =>
        let (vs, rest) ← itemsWithin? fuel depth (dropLines rest)
        return (v :: vs, rest)
      | ']' :: rest => return ([v], rest)
      | _ => none

/-- Read the members of a table in braces and its closing brace. -/
def membersWithin? : (fuel depth : Nat) → Entries → List Char → Option (Entries × List Char)
  | 0, _, _, _ => none
  | fuel + 1, depth, entries, s =>
    match s with
    | '\x7d' :: rest => some (entries, rest)
    | s => do
      let (path, v, rest) ← settingWithin? dropLines fuel depth s
      let entries ← entries.assign v path
      match dropLines rest with
      | ',' :: rest => membersWithin? fuel depth entries (dropLines rest)
      | '\x7d' :: rest => return (entries, rest)
      | _ => none

/-- Read a name with points, the sign behind it and a value; `dropGap` drops what may stand around
the sign. -/
def settingWithin? (dropGap : List Char → List Char) : (fuel depth : Nat) → List Char →
    Option (List String × Value × List Char)
  | 0, _, _ => none
  | fuel + 1, depth, s => do
    let (path, rest) ← path? s
    match dropGap rest with
    | '=' :: rest =>
      let (v, rest) ← valueWithin? fuel depth (dropGap rest)
      return (path, v, rest)
    | _ => none

end

/-- Read a setting on a line of its own. -/
def setting? (s : List Char) : Option (List String × Value × List Char) :=
  settingWithin? dropBlanks (4 * s.length + 4) depthLimit s

/-- A line of a document. -/
inductive Line where
  /-- Nothing but blanks and a comment. -/
  | blank
  /-- A header that opens a table. -/
  | table (path : List String) (name : String)
  /-- A header that opens another table of an array. -/
  | item (path : List String) (name : String)
  /-- A setting. -/
  | setting (path : List String) (v : Value)

/-- The names before the last of a path, and the last one. -/
def splitLast? (path : List String) : Option (List String × String) :=
  path.getLast?.map fun name => (path.dropLast, name)

/-- Read a line without its end. -/
def line? (s : List Char) : Option (Line × List Char) :=
  match dropBlanks s with
  | '[' :: '[' :: rest => do
    let (path, rest) ← path? rest
    let (path, name) ← splitLast? path
    match dropBlanks rest with
    | ']' :: ']' :: rest => return (.item path name, rest)
    | _ => none
  | '[' :: rest => do
    let (path, rest) ← path? rest
    let (path, name) ← splitLast? path
    match dropBlanks rest with
    | ']' :: rest => return (.table path name, rest)
    | _ => none
  | [] => some (.blank, [])
  | c :: rest =>
    if c == '#' || c == '\n' || c == '\r' then some (.blank, c :: rest)
    else (setting? (c :: rest)).map fun (path, v, rest) => (.setting path v, rest)

/-- A document that is being read. -/
structure Building where
  /-- What has been set. -/
  root : Entries
  /-- The path to the open table. -/
  place : List String

namespace Building

/-- The document with one more line. -/
def add (b : Building) : Line → Option Building
  | .blank => some b
  | .table path name =>
    (b.root.change (Entries.openTable name) path).map fun root => ⟨root, path ++ [name]⟩
  | .item path name =>
    (b.root.change (Entries.openItem name) path).map fun root => ⟨root, path ++ [name]⟩
  | .setting path v =>
    (b.root.change (Entries.assign v path) b.place).map fun root => { b with root := root }

end Building

/-- Read lines up to the end of the text; `fuel` bounds their number. -/
def linesWithin? : (fuel : Nat) → Building → List Char → Option Building
  | 0, _, _ => none
  | fuel + 1, b, s => do
    let (line, rest) ← line? s
    let b ← b.add line
    match dropComment rest with
    | [] => return b
    | rest => linesWithin? fuel b (← lineEnd? rest)

/-- The text behind a byte order mark. -/
def dropMark : List Char → List Char
  | '\ufeff' :: rest => rest
  | s => s

/-- The table that a document describes. -/
def read? (text : String) : Option Value :=
  (linesWithin? (text.length + 1) ⟨[], []⟩ (dropMark text.toList)).map fun b => b.root.toValue

end Promptbook.Toml
