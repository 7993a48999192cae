import Promptbook.Data.Value

/-!
# Tables of TOML

A document is put together from headers and settings. A name may be set once, and a table may be
opened by one header only; so a table remembers how it came into being.
-/

namespace Promptbook.Toml

/-- How a table came into being. -/
inductive TableOrigin where
  /-- By a header. -/
  | header
  /-- On the way of a header to a table inside of it. -/
  | passing
  /-- On the way of a name with points. -/
  | dotted
  deriving DecidableEq

/-- What a name stands for. -/
inductive Node where
  /-- A value. -/
  | leaf (v : Value)
  /-- A table. -/
  | table (origin : TableOrigin) (entries : List (String × Node))
  /-- An array of tables, the last one first. -/
  | tables (items : List (List (String × Node)))

/-- The names of a table, each with what it stands for. -/
abbrev Entries := List (String × Node)

namespace Entries

/-- What a name stands for. -/
def node? : Entries → String → Option Node
  | [], _ => none
  | entry :: rest, name => if entry.1 = name then some entry.2 else node? rest name

/-- The entries with another node for a name. -/
def set : Entries → String → Node → Entries
  | [], name, node => [(name, node)]
  | entry :: rest, name, node =>
    if entry.1 = name then (name, node) :: rest else entry :: set rest name node

/-- Set a name with points inside a table. The name may lead through tables that no header has
opened. -/
def assign (v : Value) : List String → Entries → Option Entries
  | [], _ => none
  | [name], entries =>
    if (node? entries name).isNone then some (set entries name (.leaf v)) else none
  | name :: path, entries =>
    match node? entries name with
    | none => (assign v path []).map fun inner => set entries name (.table .dotted inner)
    | some (.table .header _) => none
    | some (.table origin inner) =>
      (assign v path inner).map fun inner => set entries name (.table origin inner)
    | some _ => none

/-- Change the table at the end of a path of names, which leads through the last tables of arrays;
missing tables are made on the way. -/
def change (f : Entries → Option Entries) : List String → Entries → Option Entries
  | [], entries => f entries
  | name :: path, entries =>
    match node? entries name with
    | none => (change f path []).map fun inner => set entries name (.table .passing inner)
    | some (.table origin inner) =>
      (change f path inner).map fun inner => set entries name (.table origin inner)
    | some (.tables (last :: before)) =>
      (change f path last).map fun last => set entries name (.tables (last :: before))
    | some _ => none

/-- Open a table by a header. -/
def openTable (name : String) (entries : Entries) : Option Entries :=
  match node? entries name with
  | none => some (set entries name (.table .header []))
  | some (.table .passing inner) => some (set entries name (.table .header inner))
  | some _ => none

/-- Open another table of an array by a header. -/
def openItem (name : String) (entries : Entries) : Option Entries :=
  match node? entries name with
  | none => some (set entries name (.tables [[]]))
  | some (.tables items) => some (set entries name (.tables ([] :: items)))
  | some _ => none

end Entries

mutual

/-- A node as a value. -/
def Node.toValue : Node → Value
  | .leaf v => v
  | .table _ entries => .object (Fields.collect (entryValues entries))
  | .tables items => .array (itemValues items).reverse

/-- The values of entries. -/
def entryValues : List (String × Node) → List (String × Value)
  | [] => []
  | (name, node) :: rest => (name, node.toValue) :: entryValues rest

/-- The values of the tables of an array. -/
def itemValues : List (List (String × Node)) → List Value
  | [] => []
  | entries :: rest => .object (Fields.collect (entryValues entries)) :: itemValues rest

end

/-- A table as a value. -/
def Entries.toValue (entries : Entries) : Value :=
  .object (Fields.collect (entryValues entries))

end Promptbook.Toml
