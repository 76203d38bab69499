/-!
Plain data: what a document holds before anyone says what it means, and what an answer is before
it is printed. A table keeps its entries in the order they were written in.

Reading a record from a table is strict about kinds and lax about strangers: an integer is not
read from a fraction or a text, and an entry with an unknown name is passed over. A list can stand
for the table; it has the values of the entries in their order, and the last of them may be
missing like entries of a table.
-/

namespace Storefront

inductive Datum where
  | null
  | bool (value : Bool)
  | int (value : Int)
  | text (value : String)
  | list (items : List Datum)
  | table (entries : List (String × Datum))
  /-- A fraction or a point in time, kept as it was written: no record holds one. -/
  | foreign (written : String)

/-- The format that data was written in. What is data in one of them is not always data in the
other. -/
inductive Format where
  | json
  | toml
  deriving DecidableEq, Repr

class ToDatum (α : Type) where
  toDatum : α → Datum

class OfDatum (α : Type) where
  ofDatum? : Format → Datum → Option α

export ToDatum (toDatum)
export OfDatum (ofDatum?)

namespace Datum

def intWithin? (low high : Int) : Datum → Option Int
  | .int value => if low ≤ value ∧ value ≤ high then some value else none
  | _ => none

/-- Whether the format writes nothing in this way. In TOML, which has no null, anything empty does
for it. -/
def isNothing : Format → Datum → Bool
  | .json, .null => true
  | .toml, .list [] => true
  | .toml, .table [] => true
  | _, _ => false

/-- The name of one of several alternatives that carry nothing: its text, or a table whose only
entry has that name and is nothing. -/
def name? (format : Format) : Datum → Option String
  | .text name => some name
  | .table [(name, value)] => if value.isNothing format then some name else none
  | _ => none

end Datum

instance : ToDatum Datum := ⟨id⟩
instance : ToDatum Bool := ⟨.bool⟩
instance : ToDatum String := ⟨.text⟩
instance : ToDatum Nat := ⟨fun value => .int value⟩
instance : ToDatum Int64 := ⟨fun value => .int value.toInt⟩
instance : ToDatum Int32 := ⟨fun value => .int value.toInt⟩
instance : ToDatum UInt64 := ⟨fun value => .int value.toNat⟩
instance : ToDatum UInt32 := ⟨fun value => .int value.toNat⟩
instance : ToDatum UInt8 := ⟨fun value => .int value.toNat⟩

instance {α : Type} [ToDatum α] : ToDatum (List α) := ⟨fun items => .list (items.map toDatum)⟩

instance {α : Type} [ToDatum α] : ToDatum (Option α) where
  toDatum
    | none => .null
    | some value => toDatum value

instance : OfDatum Bool where
  ofDatum?
    | _, .bool value => some value
    | _, _ => none

instance : OfDatum String where
  ofDatum?
    | _, .text value => some value
    | _, _ => none

instance : OfDatum Int64 where
  ofDatum? _ datum :=
    (datum.intWithin? Int64.minValue.toInt Int64.maxValue.toInt).map Int64.ofInt

instance : OfDatum Int32 where
  ofDatum? _ datum :=
    (datum.intWithin? Int32.minValue.toInt Int32.maxValue.toInt).map Int32.ofInt

instance : OfDatum UInt64 where
  ofDatum? _ datum := (datum.intWithin? 0 (UInt64.size - 1)).map fun value => UInt64.ofNat value.toNat

instance : OfDatum UInt32 where
  ofDatum? _ datum := (datum.intWithin? 0 (UInt32.size - 1)).map fun value => UInt32.ofNat value.toNat

instance : OfDatum UInt8 where
  ofDatum? _ datum := (datum.intWithin? 0 (UInt8.size - 1)).map fun value => UInt8.ofNat value.toNat

instance {α : Type} [OfDatum α] : OfDatum (List α) where
  ofDatum?
    | format, .list items => items.mapM (ofDatum? format)
    | _, _ => none

instance {α : Type} [OfDatum α] : OfDatum (Option α) where
  ofDatum?
    | _, .null => some none
    | format, datum => (ofDatum? format datum).map some

/-! The entries of a record's table, by the three ways in which a missing one is taken, and the
two ways in which one is left out when it is written. -/
namespace Record

variable {α : Type}

abbrev Entries := List (String × Datum)

structure Given where
  format : Format
  entries : Entries

def Given.find? (given : Given) (name : String) : Option Datum := given.entries.lookup name

/-- Reads a record with these names. In JSON a list in place of the table must not have more
values than there are names. -/
def ofDatum? (names : List String) (read : Given → Option α) (format : Format) : Datum → Option α
  | .table entries => read ⟨format, entries⟩
  | .list items =>
      if format = .json ∧ names.length < items.length then none else read ⟨format, names.zip items⟩
  | _ => none

def required [OfDatum α] (name : String) (given : Given) : Option α :=
  (given.find? name).bind (OfDatum.ofDatum? given.format)

/-- A missing entry stands for `absent`; one that is there has to be readable. -/
def orElse [OfDatum α] (name : String) (absent : α) (given : Given) : Option α :=
  match given.find? name with
  | none => some absent
  | some datum => OfDatum.ofDatum? given.format datum

def optional [OfDatum α] (name : String) (given : Given) : Option (Option α) :=
  orElse name none given

def entry [ToDatum α] (name : String) (value : α) : Entries := [(name, toDatum value)]

def entryIfSome [ToDatum α] (name : String) : Option α → Entries
  | none => []
  | some value => entry name value

def entryIfAny [ToDatum α] (name : String) : List α → Entries
  | [] => []
  | value :: rest => entry name (value :: rest)

end Record

end Storefront
