import TraceFlow.Assoc
import TraceFlow.Toml.Format

/-!
# Documents that are being read

While a document is read it is kept how each table in it came about, as that decides what may still
be added to the table.
-/

namespace TraceFlow.Toml

/-- How a table came about. -/
inductive Origin where
  /-- By a header of its own, or the whole document. -/
  | header
  /-- By the header of a table further down. -/
  | implied
  /-- By a dotted key. -/
  | dotted
  /-- Between braces: complete as it stands. -/
  | inline
deriving DecidableEq, Repr

inductive Node where
  | text (text : String)
  | scalar
  | array (items : List Node)
  | table (origin : Origin) (entries : List (String × Node))
  /-- Tables under one name, each begun by a header in double brackets. -/
  | tables (rows : List (List (String × Node)))

/-- Nodes under their keys, in the order in which they were added. -/
abbrev Entries := List (String × Node)

mutual

/-- The value that a node comes to. -/
def Node.toItem : Node → Item
  | .text said => .text said
  | .scalar => .scalar
  | .array items => .array (toItems items)
  | .table _ entries => .table (toTable entries)
  | .tables rows => .array (toTables rows)

def Node.toItems : List Node → List Item
  | [] => []
  | node :: rest => node.toItem :: toItems rest

def Node.toTable : Entries → Table
  | [] => []
  | (key, node) :: rest => (key, node.toItem) :: toTable rest

def Node.toTables : List Entries → List Item
  | [] => []
  | entries :: rest => .table (toTable entries) :: toTables rest

end

namespace Entries

open Assoc (lookup put)

/--
Works on the table to which keys lead. Tables on the way that are not there yet are added, as
`dotted` ones or as implied by a header; of tables in a row the last one is taken. A dotted key does
not lead through a table that has a header of its own.
-/
def descend (dotted : Bool) (work : Origin → Entries → Option Entries) :
    List String → Origin → Entries → Option Entries
  | [], origin, entries => work origin entries
  | key :: rest, _, entries =>
    match lookup key entries with
    | none => do
      let origin := if dotted then .dotted else .implied
      let inner ← descend dotted work rest origin []
      return entries ++ [(key, .table origin inner)]
    | some (.table .inline _) => none
    | some (.table origin inner) =>
      if dotted && origin = .header then none
      else do
        let inner ← descend dotted work rest origin inner
        return put key (.table origin inner) entries
    | some (.tables rows) => do
      let row ← rows.getLast?
      let row ← descend dotted work rest .header row
      return put key (.tables (rows.dropLast ++ [row])) entries
    | some _ => none

/-- Adds a node under a new key, in the table to which the keys before it lead. -/
def addPair (path : List String) (key : String) (node : Node) (origin : Origin)
    (entries : Entries) : Option Entries :=
  descend true
    (fun origin entries =>
      if !path.isEmpty && origin ≠ .dotted then none
      else if (lookup key entries).isSome then none
      else some (entries ++ [(key, node)]))
    path origin entries

/-- Begins a table under a header; one that was only implied so far is taken over. -/
def addTable (path : List String) (key : String) (entries : Entries) : Option Entries :=
  descend false
    (fun _ entries =>
      match lookup key entries with
      | none => some (entries ++ [(key, .table .header [])])
      | some (.table .implied inner) => some (put key (.table .header inner) entries)
      | some _ => none)
    path .header entries

/-- Begins one more table of a row. -/
def addRow (path : List String) (key : String) (entries : Entries) : Option Entries :=
  descend false
    (fun _ entries =>
      match lookup key entries with
      | none => some (entries ++ [(key, .tables [[]])])
      | some (.tables rows) => some (put key (.tables (rows ++ [[]])) entries)
      | some _ => none)
    path .header entries

/-- The table that pairs between braces make up. -/
def ofPairs (pairs : List ((List String × String) × Node)) : Option Entries :=
  pairs.foldlM (fun entries ((path, key), node) => addPair path key node .inline entries) []

end Entries

end TraceFlow.Toml
