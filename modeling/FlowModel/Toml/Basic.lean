import FlowModel.Text.DecimalRange

/-!
# TOML values and tables

The values of TOML documents. Numbers and dates are kept no further than settings need them: a setting is never
a number or a date, but numbers that cannot be read are refused where they are looked at.

While a document is read, its tables are open: a table that a header names may be filled, one that only lies on the
path of a header may still be named once, and one that dotted keys made may only be extended by dotted keys.
Everything else is closed. `Table.insert?`, `Table.open?` and `Table.openItem?` keep these rules.
-/

namespace FlowModel

/-- A TOML value. A whole number may be written in a way that denotes none. A float is a significand and an exponent of
ten, unless it is not finite. -/
inductive Toml where
  | string (text : String)
  | integer (value : Option Int)
  | float (finite : Option (Int × Int))
  | bool (value : Bool)
  | date
  | array (items : List Toml)
  | table (entries : List (String × Toml))
deriving Repr, Inhabited, BEq

namespace Toml

mutual

/-- Whether all numbers in a value denote one that is in range: whole numbers of 128 bits and finite floats. -/
def isReadable : Toml → Bool
  | .string _ | .bool _ | .date | .float none => true
  | .integer none => false
  | .integer (some value) => -(2 ^ 127 : Int) ≤ value && value < 2 ^ 128
  | .float (some (significand, exponent)) => decimalInRange significand exponent
  | .array items => areReadable items
  | .table entries => entriesAreReadable entries

/-- Whether all numbers in some values are in range. -/
def areReadable : List Toml → Bool
  | [] => true
  | item :: items => isReadable item && areReadable items

/-- Whether all numbers in the values of a table are in range. -/
def entriesAreReadable : List (String × Toml) → Bool
  | [] => true
  | (_, value) :: entries => isReadable value && entriesAreReadable entries

end

/-! ## Tables of a document being read -/

/-- How a table came to be: on the path of a header, by a header of its own, or by a dotted key. -/
inductive TableOrigin where
  | implied
  | declared
  | dotted
deriving DecidableEq, Repr, Inhabited

/-- What a key of an open table stands for: a finished value, a table, or an array of tables of which the last one is
open. -/
inductive Slot where
  | value (content : Toml)
  | table (origin : TableOrigin) (slots : List (String × Slot))
  | tables (done : List (List (String × Slot))) (last : List (String × Slot))
deriving Repr, Inhabited

/-- An open table: its keys, in the order in which they were added. -/
abbrev Table := List (String × Slot)

namespace Table

/-- Give a key of a table another slot, or add the key. -/
def put (entries : Table) (key : String) (slot : Slot) : Table :=
  match entries with
  | [] => [(key, slot)]
  | (other, old) :: rest => if other = key then (key, slot) :: rest else (other, old) :: put rest key slot

/-- Change the table that the path of a header leads to. Tables that are missing on the way are implied. -/
def under? (change : Table → Option Table) : List String → Table → Option Table
  | [], entries => change entries
  | key :: path, entries =>
    match entries.lookup key with
    | none => (under? change path []).map fun inner => put entries key (.table .implied inner)
    | some (.table origin slots) => (under? change path slots).map fun inner => put entries key (.table origin inner)
    | some (.tables done last) => (under? change path last).map fun inner => put entries key (.tables done inner)
    | some (.value _) => none

/-- Open the table that a header names by a key. -/
def open? (key : String) (entries : Table) : Option Table :=
  match entries.lookup key with
  | none => some (put entries key (.table .declared []))
  | some (.table .implied slots) => some (put entries key (.table .declared slots))
  | some _ => none

/-- Open another table in the array that a header names by a key. -/
def openItem? (key : String) (entries : Table) : Option Table :=
  match entries.lookup key with
  | none => some (put entries key (.tables [] []))
  | some (.tables done last) => some (put entries key (.tables (done ++ [last]) []))
  | some _ => none

/-- Add a value under a dotted key: through tables made by dotted keys, to a key that is new. A table on the path of
a header may be passed, but not be given keys. -/
def insert? (value : Toml) : List String → Table → Option Table
  | [], _ => none
  | [key], entries =>
    match entries.lookup key with
    | none => some (put entries key (.value value))
    | some _ => none
  | key :: next :: path, entries =>
    match entries.lookup key with
    | none => (insert? value (next :: path) []).map fun inner => put entries key (.table .dotted inner)
    | some (.table .dotted slots) =>
      (insert? value (next :: path) slots).map fun inner => put entries key (.table .dotted inner)
    | some (.table .implied slots) =>
      if path.isEmpty then none
      else (insert? value (next :: path) slots).map fun inner => put entries key (.table .implied inner)
    | some (.tables done last) =>
      if path.isEmpty then none
      else (insert? value (next :: path) last).map fun inner => put entries key (.tables done inner)
    | some (.table .declared _) | some (.value _) => none

end Table

mutual

/-- The value of a slot. -/
def ofSlot : Slot → Toml
  | .value content => content
  | .table _ slots => .table (ofSlots slots)
  | .tables done last => .array (ofTables done ++ [.table (ofSlots last)])

/-- The entries of a table. -/
def ofSlots : List (String × Slot) → List (String × Toml)
  | [] => []
  | (key, slot) :: slots => (key, ofSlot slot) :: ofSlots slots

/-- The items of an array of tables. -/
def ofTables : List (List (String × Slot)) → List Toml
  | [] => []
  | slots :: tables => .table (ofSlots slots) :: ofTables tables

end

end Toml

end FlowModel
