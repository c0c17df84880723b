import ContentFinder.Data.Basic

/-! The tables that the lines of a TOML text build up. A table is written by one header or by the
dotted keys of one header, and never by both. -/

namespace ContentFinder.Toml

inductive TableOrigin where
  /-- A header named it. -/
  | defined
  /-- A header named a table within it. -/
  | implied
  /-- A dotted key passed through it. -/
  | dotted
deriving DecidableEq, Repr

inductive Node where
  | leaf (value : Data)
  | table (origin : TableOrigin) (entries : List (String × Node))
  /-- Tables that headers in double brackets added one by one. -/
  | tables (items : List Node)

namespace Node

mutual

def toData : Node → Data
  | .leaf value => value
  | .table _ entries => .record (entriesToData entries)
  | .tables items => .list (itemsToData items)

def itemsToData : List Node → List Data
  | [] => []
  | item :: rest => toData item :: itemsToData rest

def entryToData : String × Node → String × Data
  | (name, node) => (name, toData node)

def entriesToData : List (String × Node) → List (String × Data)
  | [] => []
  | entry :: rest => entryToData entry :: entriesToData rest

end

end Node

structure Table where
  origin : TableOrigin
  entries : List (String × Node)

namespace Table

def root : Table := ⟨.defined, []⟩

def toNode (table : Table) : Node := .table table.origin table.entries

def toData (table : Table) : Data := table.toNode.toData

def find? (table : Table) (key : String) : Option Node :=
  (table.entries.find? (·.1 == key)).map (·.2)

def set (table : Table) (key : String) (node : Node) : Table :=
  if (table.find? key).isSome then
    { table with entries := table.entries.map fun entry =>
        if entry.1 == key then (key, node) else entry }
  else { table with entries := table.entries ++ [(key, node)] }

/-- Changes the table at the end of a path. Tables that are missing on the way are made, and of a
list of tables the last is meant. A dotted key does not pass through a table with a header. -/
def change (dotted : Bool) (action : Table → Option Table) : List String → Table → Option Table
  | [], table => action table
  | key :: rest, table =>
    match table.find? key with
    | none => do
      let child ← change dotted action rest ⟨if dotted then .dotted else .implied, []⟩
      return table.set key child.toNode
    | some (.table origin entries) =>
      if dotted && origin == .defined then none
      else do
        let child ← change dotted action rest ⟨origin, entries⟩
        return table.set key child.toNode
    | some (.tables items) =>
      match items.getLast? with
      | some (.table origin entries) => do
        let child ← change dotted action rest ⟨origin, entries⟩
        return table.set key (.tables (items.dropLast ++ [child.toNode]))
      | _ => none
    | some (.leaf _) => none

def addValue (path : List String) (key : String) (value : Data) (table : Table) : Option Table :=
  table.change true (fun parent =>
    if !path.isEmpty && parent.origin != .dotted then none
    else if (parent.find? key).isSome then none
    else some (parent.set key (.leaf value))) path

def define (path : List String) (key : String) (table : Table) : Option Table :=
  table.change false (fun parent =>
    match parent.find? key with
    | none => some (parent.set key (.table .defined []))
    | some (.table .implied entries) => some (parent.set key (.table .defined entries))
    | _ => none) path

def append (path : List String) (key : String) (table : Table) : Option Table :=
  table.change false (fun parent =>
    match parent.find? key with
    | none => some (parent.set key (.tables [.table .defined []]))
    | some (.tables items) => some (parent.set key (.tables (items ++ [.table .defined []])))
    | _ => none) path

def addUnder (header path : List String) (key : String) (value : Data) (table : Table) :
    Option Table :=
  table.change false (addValue path key value) header

end Table

end ContentFinder.Toml
