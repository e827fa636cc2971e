import FormCheck.Toml.Basic

/-!
# Putting tables together

The entries of a table may be spread over a document: a key with several parts enters a table
inside the current one, and a header names a table anywhere in the document. What may be added to
which table depends on how the table came about.

* A key with several parts may only enter tables that such keys made, or that stand above a table
  with a header; the last of them has to be one that such keys made.
* A header may name a table once. It may name one that so far only stands above other tables with
  headers, which thereby moves behind its neighbours.
* A header in double brackets adds a table to an array of tables. Where a path meets such an array
  it goes on in the last table.

## Main definitions

* `Toml.Node` : what stands under a key while tables are put together.
* `Toml.enter` : adds an entry under a key with several parts.
* `Toml.placeTable`, `Toml.appendTable` : adds the table of a header.
* `Toml.values` : the finished entries.
-/

namespace FormCheck.Toml

/-- How a table came about. -/
inductive Origin where
  /-- It stands above a table with a header. -/
  | above
  /-- A key with several parts made it. -/
  | dotted
  /-- It has a header of its own. -/
  | header
  deriving DecidableEq, Repr

/-- What stands under a key while tables are put together. -/
inductive Node where
  /-- A finished value. -/
  | value (v : Value)
  /-- A table. -/
  | table (origin : Origin) (entries : List (String × Node))
  /-- An array of tables, each of which has a header. -/
  | tables (items : List (List (String × Node)))

/-- The entries of a table that is not finished. -/
abbrev Entries := List (String × Node)

/-- Adds an entry under a key, unless the key is taken. -/
def enterKey (key : String) (v : Value) (entries : Entries) : Option Entries :=
  match Table.lookup key entries with
  | none => some (entries ++ [(key, .value v)])
  | some _ => none

/-- Adds an entry under a key with several parts. `path` holds all of them but the last. -/
def enter : (path : List String) → (key : String) → Value → Entries → Option Entries
  | [], key, v, entries => enterKey key v entries
  | step :: path, key, v, entries =>
    match Table.lookup step entries with
    | none =>
      (enter path key v []).map fun inner => entries ++ [(step, .table .dotted inner)]
    | some (.table origin inner) =>
      if origin = .header ∨ (path = [] ∧ origin ≠ .dotted) then none
      else
        (enter path key v inner).map fun inner => Table.upsert step (.table origin inner) entries
    | some (.tables items) =>
      if path = [] then none
      else
        (items.getLast?.bind (enter path key v)).map fun last =>
          Table.upsert step (.tables (items.dropLast ++ [last])) entries
    | some (.value _) => none

/-- Goes down a path of tables, making those that are missing, and changes the last one. -/
def descend (change : Entries → Option Entries) : (path : List String) → Entries → Option Entries
  | [], entries => change entries
  | step :: path, entries =>
    match Table.lookup step entries with
    | none => (descend change path []).map fun inner => entries ++ [(step, .table .above inner)]
    | some (.table origin inner) =>
      (descend change path inner).map fun inner =>
        Table.upsert step (.table origin inner) entries
    | some (.tables items) =>
      (items.getLast?.bind (descend change path)).map fun last =>
        Table.upsert step (.tables (items.dropLast ++ [last])) entries
    | some (.value _) => none

/-- Adds the table of a header, whose entries `fill` adds. -/
def placeTable (fill : Entries → Option Entries) (path : List String) (key : String)
    (root : Entries) : Option Entries :=
  descend (fun entries =>
    match Table.lookup key entries with
    | none => (fill []).map fun inner => entries ++ [(key, .table .header inner)]
    | some (.table .above inner) =>
      (fill inner).map fun inner =>
        entries.filter (fun entry => entry.1 != key) ++ [(key, .table .header inner)]
    | _ => none) path root

/-- Adds a table to the array of tables of a header, whose entries `fill` adds. -/
def appendTable (fill : Entries → Option Entries) (path : List String) (key : String)
    (root : Entries) : Option Entries :=
  descend (fun entries =>
    match Table.lookup key entries with
    | none => (fill []).map fun inner => entries ++ [(key, .tables [inner])]
    | some (.tables items) =>
      (fill []).map fun inner => Table.upsert key (.tables (items ++ [inner])) entries
    | _ => none) path root

/-- Adds entries one after another, each under a key with several parts. -/
def enterAll : List ((List String × String) × Value) → Entries → Option Entries
  | [], entries => some entries
  | ((path, key), v) :: rest, entries => (enter path key v entries).bind (enterAll rest)

mutual

/-- The finished value of a node. -/
def Node.toValue : Node → Value
  | .value v => v
  | .table _ entries => .table (values entries)
  | .tables items => .array (tableValues items)

/-- The finished entries of a table. -/
def values : Entries → List (String × Value)
  | [] => []
  | (key, node) :: rest => (key, node.toValue) :: values rest

/-- The finished tables of an array. -/
def tableValues : List Entries → List Value
  | [] => []
  | entries :: rest => .table (values entries) :: tableValues rest

end

/-- The finished entries of an inline table, if its keys go together. -/
def inlineTable? (entries : List ((List String × String) × Value)) : Option Value :=
  (enterAll entries []).map fun entries => .table (values entries)

end FormCheck.Toml
