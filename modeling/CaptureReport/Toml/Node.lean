import CaptureReport.Toml.Value

/-!
# Tables under construction

The tables of a document are built up by its statements, which may come back to a table that earlier
ones have begun. Whether they may add to it depends on how it came about, its **origin**: a table
that a header has introduced is closed to dotted keys and to a second header; one that only lies on
the way to a header may still be introduced; one that dotted keys have made takes more dotted keys
and nothing else. What was written as a value is never added to.

Of an array of tables the latest one is meant wherever a path leads through the array. So the latest
is kept apart, and those before it are listed from the latest back.
-/

namespace CaptureReport.Toml

/-- How a table came about. -/
inductive Origin
  /-- It lies on the path of a header. -/
  | implied
  /-- It lies on the path of a dotted key. -/
  | dotted
  /-- A header introduced it. -/
  | header
  deriving DecidableEq, Repr

/-- What a key of a table under construction stands for. -/
inductive Node
  /-- A value that is complete. -/
  | leaf (value : Value)
  | table (origin : Origin) (entries : List (String × Node))
  /-- An array of tables: the latest, and the earlier ones from the latest back. -/
  | tables (latest : List (String × Node)) (earlier : List (List (String × Node)))

/-- A table under construction: its keys in the order in which they came up. -/
abbrev Entries := List (String × Node)

namespace Entries

/-- The entries with another node for a key that is present. -/
def replace (key : String) (node : Node) (entries : Entries) : Entries :=
  entries.map fun entry => if entry.1 = key then (key, node) else entry

/-- The entries with a new key. -/
def insert (key : String) (node : Node) (entries : Entries) : Entries :=
  entries ++ [(key, node)]

/-- Applies a change to the table at the end of a path of headers. Tables that are not there yet
are implied. -/
def within (change : Entries → Option Entries) : List String → Entries → Option Entries
  | [], entries => change entries
  | key :: path, entries =>
    match entries.lookup key with
    | none => (within change path []).map fun inner =>
      entries.insert key (.table .implied inner)
    | some (.table origin inner) => (within change path inner).map fun inner =>
      entries.replace key (.table origin inner)
    | some (.tables latest earlier) => (within change path latest).map fun latest =>
      entries.replace key (.tables latest earlier)
    | some (.leaf _) => none

/-- Introduces a table by its header. -/
def introduce (key : String) (entries : Entries) : Option Entries :=
  match entries.lookup key with
  | none => some (entries.insert key (.table .header []))
  | some (.table .implied inner) => some (entries.replace key (.table .header inner))
  | some _ => none

/-- Adds a table to an array of tables by its header. -/
def introduceItem (key : String) (entries : Entries) : Option Entries :=
  match entries.lookup key with
  | none => some (entries.insert key (.tables [] []))
  | some (.tables latest earlier) => some (entries.replace key (.tables [] (latest :: earlier)))
  | some _ => none

/-- Gives a value to a dotted key; `here` says whether the last part of the key may be set in the
table that the key starts from. -/
def assign (value : Value) (here : Bool) : List String → Entries → Option Entries
  | [], _ => none
  | [key], entries =>
    if here && (entries.lookup key).isNone then some (entries.insert key (.leaf value)) else none
  | key :: path, entries =>
    match entries.lookup key with
    | none => (assign value true path []).map fun inner =>
      entries.insert key (.table .dotted inner)
    | some (.table .dotted inner) => (assign value true path inner).map fun inner =>
      entries.replace key (.table .dotted inner)
    | some (.table .implied inner) => (assign value false path inner).map fun inner =>
      entries.replace key (.table .implied inner)
    | some (.tables latest earlier) => (assign value false path latest).map fun latest =>
      entries.replace key (.tables latest earlier)
    | some (.table .header _) | some (.leaf _) => none

end Entries

mutual

/-- The value that a node has come to. -/
def Node.value : Node → Value
  | .leaf value => value
  | .table _ entries => .table (tableOf entries)
  | .tables latest earlier => .array (tablesOf earlier [.table (tableOf latest)])

/-- The table that entries have come to. -/
def tableOf : List (String × Node) → Table
  | [] => []
  | (key, node) :: rest => (key, node.value) :: tableOf rest

/-- The tables that an array has come to, given from the latest back and put in front of `later`
ones. -/
def tablesOf : List (List (String × Node)) → (later : List Value) → List Value
  | [], later => later
  | entries :: earlier, later => tablesOf earlier (.table (tableOf entries) :: later)

end

end CaptureReport.Toml
