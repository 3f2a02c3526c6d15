import Reshape.Value.Basic
/-!
Tables of TOML while a document is read. How a table came about decides what may still be
added to it: nothing to one in braces, entries of dotted names to one that dotted names
made, and a header of its own to one that was only named on the way to another.
-/

namespace Reshape.Toml

inductive Origin where
  /-- Named on the way to another table. -/
  | passed
  | header
  | dotted
deriving DecidableEq

inductive Item where
  | value (value : Value)
  | table (origin : Origin) (entries : List (String × Item))
  /-- Tables of one name, the last one first. -/
  | tables (all : List (List (String × Item)))

abbrev Table := List (String × Item)

namespace Item

instance : Inhabited Item := ⟨.tables []⟩

mutual

def toValue : Item → Value
  | .value finished => finished
  | .table _ entries => .map (toValues entries)
  | .tables all => .list (toMaps all).reverse

def toValues : List (String × Item) → List (String × Value)
  | [] => []
  | (name, item) :: rest => (name, item.toValue) :: toValues rest

def toMaps : List (List (String × Item)) → List Value
  | [] => []
  | entries :: rest => .map (toValues entries) :: toMaps rest

end

end Item

namespace Table

def alter? (name : String) (change : Option Item → Option Item) (table : Table) : Option Table := do
  return Entries.insert name (← change (Entries.get? name table)) table

/-- A new value under a dotted name. Dotted names neither enter nor replace a table that has
a header. -/
def assign? (value : Value) : (path : List String) → (table : Table) → Option Table
  | [], _ => none
  | [name], table => table.alter? name fun
      | none => some (.value value)
      | some _ => none
  | name :: path, table => table.alter? name fun
      | none => (assign? value path []).map (.table .dotted)
      | some (.table .header _) => none
      | some (.table origin entries) => (assign? value path entries).map (.table origin)
      | some _ => none

def openTable? : (path : List String) → (table : Table) → Option Table
  | [], _ => none
  | [name], table => table.alter? name fun
      | none => some (.table .header [])
      | some (.table .passed entries) => some (.table .header entries)
      | some _ => none
  | name :: path, table => table.alter? name fun
      | none => (openTable? path []).map (.table .passed)
      | some (.table origin entries) => (openTable? path entries).map (.table origin)
      | some (.tables (last :: before)) =>
          (openTable? path last).map fun last => .tables (last :: before)
      | some _ => none

def openElement? : (path : List String) → (table : Table) → Option Table
  | [], _ => none
  | [name], table => table.alter? name fun
      | none => some (.tables [[]])
      | some (.tables all) => some (.tables ([] :: all))
      | some _ => none
  | name :: path, table => table.alter? name fun
      | none => (openElement? path []).map (.table .passed)
      | some (.table origin entries) => (openElement? path entries).map (.table origin)
      | some (.tables (last :: before)) =>
          (openElement? path last).map fun last => .tables (last :: before)
      | some _ => none

def within? (change : Table → Option Table) : (path : List String) → (table : Table) → Option Table
  | [], table => change table
  | name :: path, table => table.alter? name fun
      | some (.table origin entries) => (within? change path entries).map (.table origin)
      | some (.tables (last :: before)) =>
          (within? change path last).map fun last => .tables (last :: before)
      | _ => none

end Table

end Reshape.Toml
