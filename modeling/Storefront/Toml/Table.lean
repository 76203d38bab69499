import Storefront.Datum.Basic
/-!
Tables of a TOML document while it is read. A document may come back to a table, so every table
remembers how it came about: stated by a header of its own, implied by the header of a table
inside it, or built by dotted keys. A stated table is stated once. Dotted keys add to tables that
were built by dotted keys, and to no others. Nothing is ever given a second value.
-/

namespace Storefront.Toml

inductive Origin where
  | stated
  | implied
  | dotted
  deriving DecidableEq, Repr

inductive Node where
  | leaf (datum : Datum)
  | table (origin : Origin) (entries : List (String × Node))
  /-- The tables of a list, first one first. Each of them was stated. -/
  | tables (items : List (List (String × Node)))

abbrev Entries := List (String × Node)

namespace Entries

def alter (change : Option Node → Option Node) (name : String) : Entries → Option Entries
  | [] => (change none).map fun node => [(name, node)]
  | (other, node) :: rest =>
      if other = name then (change (some node)).map fun node => (name, node) :: rest
      else (alter change name rest).map ((other, node) :: ·)

def alterLast (change : Entries → Option Entries) : List Entries → Option (List Entries)
  | [] => none
  | [last] => (change last).map ([·])
  | first :: rest => (alterLast change rest).map (first :: ·)

/-- A change at the end of the path of a header. Tables that are not there are implied; in a list
of tables the last is meant. -/
def alterBelow (change : Entries → Option Entries) : List String → Entries → Option Entries
  | [], entries => change entries
  | name :: path, entries =>
      alter (fun
        | none => (alterBelow change path []).map (.table .implied ·)
        | some (.table origin inner) => (alterBelow change path inner).map (.table origin ·)
        | some (.tables items) => (alterLast (alterBelow change path) items).map .tables
        | some (.leaf _) => none) name entries

/-- A change at the end of a path of dotted keys. The table at its end has to be one that dotted
keys built, and none on the way may be stated. -/
def alterAlong (change : Entries → Option Entries) : List String → Entries → Option Entries
  | [], entries => change entries
  | name :: path, entries =>
      alter (fun
        | none => (alterAlong change path []).map (.table .dotted ·)
        | some (.table origin inner) =>
            if origin = .stated ∨ (path.isEmpty ∧ origin ≠ .dotted) then none
            else (alterAlong change path inner).map (.table origin ·)
        | some (.tables items) =>
            if path.isEmpty then none else (alterLast (alterAlong change path) items).map .tables
        | some (.leaf _) => none) name entries

def add (name : String) (datum : Datum) : Entries → Option Entries :=
  alter (fun node => if node.isNone then some (.leaf datum) else none) name

def assign (path : List String) (name : String) (datum : Datum) : Entries → Option Entries :=
  alterAlong (add name datum) path

/-- States the table under the name and fills it. -/
def state (fill : Entries → Option Entries) (name : String) : Entries → Option Entries :=
  alter (fun
    | none => (fill []).map (.table .stated ·)
    | some (.table .implied entries) => (fill entries).map (.table .stated ·)
    | some _ => none) name

def append (fill : Entries → Option Entries) (name : String) : Entries → Option Entries :=
  alter (fun
    | none => (fill []).map fun entries => .tables [entries]
    | some (.tables items) => (fill []).map fun entries => .tables (items ++ [entries])
    | some _ => none) name

end Entries

mutual

def Node.toDatum : Node → Datum
  | .leaf datum => datum
  | .table _ entries => .table (dataOf entries)
  | .tables items => .list (tablesOf items)

def dataOf : List (String × Node) → List (String × Datum)
  | [] => []
  | (name, node) :: rest => (name, node.toDatum) :: dataOf rest

def tablesOf : List (List (String × Node)) → List Datum
  | [] => []
  | entries :: rest => .table (dataOf entries) :: tablesOf rest

end

end Storefront.Toml
