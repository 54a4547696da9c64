import CollisionWatch.Toml.Value

/-!
# Building tables

The lines of a document build its tables piece by piece, and how a table came to be decides what may
still be added to it:

* a table with a header, or between braces, is complete when the next header comes;
* a table that only a longer header mentions may still get a header of its own;
* a table that a dotted key mentions may only be continued by dotted keys, in the same place.

`insert` adds an entry by its dotted key, `update` opens the table that a header names.  Both answer
none where the document contradicts itself.
-/

namespace CollisionWatch.Toml

/-- How a table came to be. -/
inductive Origin where
  /-- It has a header. -/
  | written
  /-- A longer header mentions it. -/
  | implied
  /-- A dotted key mentions it. -/
  | dotted
  deriving Repr, DecidableEq

/-- What a name stands for while a document is read. -/
inductive Node where
  /-- A complete value. -/
  | value (value : Value)
  /-- A table. -/
  | table (origin : Origin) (entries : List (String × Node))
  /-- Tables that share a header, in order. -/
  | tables (tables : List (List (String × Node)))

/-- The nodes of a table under construction. -/
abbrev Nodes := List (String × Node)

/-- The nodes with another one for a name; a new name comes last. -/
def assign (nodes : Nodes) (name : String) (node : Node) : Nodes :=
  match nodes with
  | [] => [(name, node)]
  | entry :: rest =>
    if entry.1 = name then (name, node) :: rest else entry :: assign rest name node

/-- The nodes with an entry under a dotted key: `path` leads to the table, `name` is new there. -/
def insert (path : List String) (name : String) (value : Value) (nodes : Nodes) : Option Nodes :=
  match path with
  | [] => if (nodes.lookup name).isSome then none else some (nodes ++ [(name, .value value)])
  | key :: rest =>
    match nodes.lookup key with
    | none => (insert rest name value []).map fun sub => assign nodes key (.table .dotted sub)
    | some (.table origin sub) =>
      if origin = .written ∨ (rest = [] ∧ origin ≠ .dotted) then none
      else (insert rest name value sub).map fun sub => assign nodes key (.table origin sub)
    | some (.tables tables) =>
      match rest, tables.getLast? with
      | _ :: _, some last =>
        (insert rest name value last).map fun last =>
          assign nodes key (.tables (tables.dropLast ++ [last]))
      | _, _ => none
    | some (.value _) => none

/-- The nodes with another one where a header leads. -/
def update (path : List String) (change : Option Node → Option Node) (nodes : Nodes) :
    Option Nodes :=
  match path with
  | [] => none
  | [key] => (change (nodes.lookup key)).map (assign nodes key)
  | key :: rest =>
    match nodes.lookup key with
    | none => (update rest change []).map fun sub => assign nodes key (.table .implied sub)
    | some (.table origin sub) =>
      (update rest change sub).map fun sub => assign nodes key (.table origin sub)
    | some (.tables tables) =>
      match tables.getLast? with
      | some last =>
        (update rest change last).map fun last =>
          assign nodes key (.tables (tables.dropLast ++ [last]))
      | none => none
    | some (.value _) => none

/-- An entry of a document: a dotted key and a value. -/
structure Entry where
  /-- The keys that lead to the table. -/
  path : List String
  /-- The last key. -/
  name : String
  /-- The value. -/
  value : Value

/-- Add entries in order. -/
def insertAll (entries : List Entry) (nodes : Nodes) : Option Nodes :=
  entries.foldlM (fun nodes e => insert e.path e.name e.value nodes) nodes

mutual

/-- The value that a node stands for. -/
def Node.toValue : Node → Value
  | .value v => v
  | .table _ entries => .table (nodesToEntries entries)
  | .tables tables => .array (tablesToValues tables)

/-- The entries that nodes stand for. -/
def nodesToEntries : List (String × Node) → List (String × Value)
  | [] => []
  | entry :: rest => nodeToEntry entry :: nodesToEntries rest

/-- The entry that a named node stands for. -/
def nodeToEntry : String × Node → String × Value
  | (name, node) => (name, node.toValue)

/-- The values that tables stand for. -/
def tablesToValues : List (List (String × Node)) → List Value
  | [] => []
  | table :: rest => .table (nodesToEntries table) :: tablesToValues rest

end

/-! ## Documents -/

/-- What a header opens. -/
inductive HeaderKind where
  /-- One table. -/
  | table
  /-- One more of several tables. -/
  | oneOfMany
  deriving Repr, DecidableEq

/-- A header and the entries below it. -/
structure Section where
  /-- What the header opens. -/
  kind : HeaderKind
  /-- Where the header leads. -/
  path : List String
  /-- The entries. -/
  entries : List Entry

/-- The node of a section, in place of what was there. -/
def Section.node (s : Section) (old : Option Node) : Option Node :=
  match s.kind, old with
  | .table, none => (insertAll s.entries []).map (.table .written)
  | .table, some (.table .implied sub) => (insertAll s.entries sub).map (.table .written)
  | .oneOfMany, none => (insertAll s.entries []).map fun t => .tables [t]
  | .oneOfMany, some (.tables tables) =>
    (insertAll s.entries []).map fun t => .tables (tables ++ [t])
  | _, _ => none

/-- The table of a document: entries before any header, then sections. -/
def assemble (entries : List Entry) (sections : List Section) : Option Entries := do
  let root ← insertAll entries []
  let root ← sections.foldlM (fun root s => update s.path s.node root) root
  return nodesToEntries root

/-- The table between braces. -/
def inlineTable (entries : List Entry) : Option Value :=
  (insertAll entries []).map fun nodes => .table (nodesToEntries nodes)

end CollisionWatch.Toml
