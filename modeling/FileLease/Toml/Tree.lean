/-! # Trees of TOML keys

A table can be given by a header, be implied by the header of a table in it, or be implied by a key
with dots. These differ in how they can be extended. -/
namespace FileLease.Toml

inductive Origin
  | header
  | implied
  | dotted
  deriving DecidableEq

/-- A value, a table, or a list of tables of which only the last can be extended. -/
inductive Node
  | text (s : String)
  | integer (n : Int)
  | float
  | boolean (b : Bool)
  | date
  | array (items : List Node)
  | inline (entries : List (String × Node))
  | table (origin : Origin) (entries : List (String × Node))
  | tables (earlier : List (List (String × Node))) (last : List (String × Node))

/-- Keys with their nodes, in the order in which they appeared. -/
abbrev Entries := List (String × Node)

namespace Entries

/-- The entries with the node of a key replaced, or with the key at the end. -/
def set (key : String) (node : Node) : Entries → Entries
  | [] => [(key, node)]
  | (k, n) :: rest => if k = key then (k, node) :: rest else (k, n) :: set key node rest

/-- The entries with a value for a key with dots, as far as that key is free. The tables on the way
must not have headers, and the last of them is one that a key with dots implies. -/
def putDotted (value : Node) : (path : List String) → Entries → Option Entries
  | [], _ => none
  | [key], entries => if (entries.lookup key).isSome then none else some (entries ++ [(key, value)])
  | key :: rest, entries =>
    let final := rest.length = 1
    match entries.lookup key with
    | none => (putDotted value rest []).map fun inner => entries ++ [(key, .table .dotted inner)]
    | some (.table .dotted inner) =>
      (putDotted value rest inner).map fun inner => entries.set key (.table .dotted inner)
    | some (.table .implied inner) =>
      if final then none
      else (putDotted value rest inner).map fun inner => entries.set key (.table .implied inner)
    | some (.tables earlier last) =>
      if final then none
      else (putDotted value rest last).map fun last => entries.set key (.tables earlier last)
    | some _ => none

/-- The entries with the table at the end of a path changed; tables that are missing are implied by
it, and of a list of tables the last one is meant. -/
def change (f : Entries → Option Entries) : (path : List String) → Entries → Option Entries
  | [], entries => f entries
  | key :: rest, entries =>
    match entries.lookup key with
    | none => (change f rest []).map fun inner => entries ++ [(key, .table .implied inner)]
    | some (.table origin inner) =>
      (change f rest inner).map fun inner => entries.set key (.table origin inner)
    | some (.tables earlier last) =>
      (change f rest last).map fun last => entries.set key (.tables earlier last)
    | some _ => none

/-- The entries with a table that has a header; it must not have been given before. -/
def openTable (key : String) (entries : Entries) : Option Entries :=
  match entries.lookup key with
  | none => some (entries ++ [(key, .table .header [])])
  | some (.table .implied inner) => some (entries.set key (.table .header inner))
  | some _ => none

/-- The entries with a new table at the end of a list of tables. -/
def openItem (key : String) (entries : Entries) : Option Entries :=
  match entries.lookup key with
  | none => some (entries ++ [(key, .tables [] [])])
  | some (.tables earlier last) => some (entries.set key (.tables (earlier ++ [last]) []))
  | some _ => none

end Entries
end FileLease.Toml
