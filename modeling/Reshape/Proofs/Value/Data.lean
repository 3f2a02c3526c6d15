import Reshape.Proofs.Access.RecordFree
import Reshape.Proofs.Value.Equality

namespace Reshape

/-- Whole numbers, as opposed to floats. -/
def Number.Whole : Number → Prop
  | .int _ _ => True
  | .float _ => False

namespace View

mutual

/-- The value that a view spells, where nothing is left of a record but what it shows. -/
def data : View → Value
  | .null => .null
  | .bool value => .bool value
  | .number value => .number value
  | .string value => .string value
  | .list items => .list (dataItems items)
  | .map entries => .map (dataEntries entries)
  | .record _ entries => .map (dataEntries entries)

def dataItems : List View → List Value
  | [] => []
  | view :: rest => view.data :: dataItems rest

def dataEntries : List (String × View) → List (String × Value)
  | [] => []
  | (name, view) :: rest => (name, view.data) :: dataEntries rest

end

theorem dataItems_eq (items : List View) : dataItems items = items.map data := by
  induction items with
  | nil => rfl
  | cons view rest ih => rw [dataItems, ih, List.map_cons]

theorem dataEntries_eq (entries : List (String × View)) :
    dataEntries entries = Entries.mapValues data entries := by
  induction entries with
  | nil => rfl
  | cons entry rest ih =>
      obtain ⟨name, view⟩ := entry
      rw [dataEntries, ih]
      rfl

theorem distinct_dataEntries {entries : List (String × View)} (distinct : Entries.Distinct entries) :
    Entries.Distinct (dataEntries entries) := by
  rw [dataEntries_eq]
  simpa [Entries.Distinct, Entries.names, Entries.mapValues, Function.comp_def] using distinct

mutual

def FloatFree : View → Prop
  | .number value => value.Whole
  | .list items => ItemsFloatFree items
  | .map entries | .record _ entries => EntriesFloatFree entries
  | _ => True

def ItemsFloatFree : List View → Prop
  | [] => True
  | view :: rest => view.FloatFree ∧ ItemsFloatFree rest

def EntriesFloatFree : List (String × View) → Prop
  | [] => True
  | (_, view) :: rest => view.FloatFree ∧ EntriesFloatFree rest

end

theorem entriesFloatFree_iff {entries : List (String × View)} :
    EntriesFloatFree entries ↔ ∀ entry ∈ entries, entry.2.FloatFree := by
  induction entries with
  | nil => simp [EntriesFloatFree]
  | cons entry rest ih => simp [EntriesFloatFree, ih]

end View

namespace Value

mutual

/-- No float stands in a value, at any depth, be it shown or hidden. -/
def FloatFree : Value → Prop
  | .number value => value.Whole
  | .list items => ItemsFloatFree items
  | .map entries | .record _ entries => EntriesFloatFree entries
  | _ => True

def ItemsFloatFree : List Value → Prop
  | [] => True
  | value :: rest => value.FloatFree ∧ ItemsFloatFree rest

def EntriesFloatFree : List (String × Value) → Prop
  | [] => True
  | (_, value) :: rest => value.FloatFree ∧ EntriesFloatFree rest

end

theorem floatFree_answer (reading : Reading) {stored : Option View}
    (held : ∀ view, stored = some view → view.FloatFree) :
    (View.answer reading stored).FloatFree := by
  have shown : (stored.getD .null).FloatFree := by
    cases stored with
    | none => trivial
    | some view => exact held view rfl
  cases reading with
  | stored | custom => exact shown
  | upperCase => trivial
  | withType => exact ⟨shown, trivial, trivial⟩

mutual

theorem floatFree_view : (value : Value) → value.FloatFree → value.view.FloatFree
  | .number _, whole => whole
  | .list items, each => floatFree_viewItems items each
  | .map entries, each => floatFree_viewEntries entries each
  | .record none fields, each => floatFree_viewEntries fields each
  | .record (some shape) fields, each => by
      have each := View.entriesFloatFree_iff.mp (floatFree_viewEntries fields each)
      have held (field : String) (view : View)
          (found : Entries.get? field (viewEntries fields) = some view) : view.FloatFree :=
        each (field, view) (Entries.mem_of_get? found)
      exact View.entriesFloatFree_iff.mpr
        (Shape.holds_of_readableBy (fun getter => floatFree_answer getter.reading (held getter.field))
          held shape)
  | .null, _ | .bool _, _ | .string _, _ => trivial

theorem floatFree_viewItems : (items : List Value) → ItemsFloatFree items →
    View.ItemsFloatFree (viewItems items)
  | [], _ => trivial
  | value :: rest, ⟨first, others⟩ =>
      ⟨floatFree_view value first, floatFree_viewItems rest others⟩

theorem floatFree_viewEntries : (entries : List (String × Value)) → EntriesFloatFree entries →
    View.EntriesFloatFree (viewEntries entries)
  | [], _ => trivial
  | (_, value) :: rest, ⟨first, others⟩ =>
      ⟨floatFree_view value first, floatFree_viewEntries rest others⟩

end

variable [Record.Display]

/-- The value with every record replaced by the map of its snapshot. -/
def data (value : Value) : Value := value.view.data

theorem mapValues_data (entries : List (String × Value)) :
    View.dataEntries (Entries.mapValues view entries) = Entries.mapValues data entries := by
  rw [View.dataEntries_eq, Entries.mapValues, Entries.mapValues, List.map_map]
  rfl

theorem data_list (items : List Value) : (list items).data = .list (items.map data) := by
  rw [data, view, viewItems_eq, View.data, View.dataItems_eq, List.map_map]
  rfl

theorem data_map (entries : List (String × Value)) :
    (map entries).data = .map (Entries.mapValues data entries) := by
  rw [data, view, viewEntries_eq, View.data, mapValues_data]

mutual

theorem data_of_recordFree : (value : Value) → value.RecordFree → value.data = value
  | .list items, free => by rw [data_list, map_data_of_recordFree items free]
  | .map entries, free => by rw [data_map, mapValues_data_of_recordFree entries free]
  | .null, _ | .bool _, _ | .number _, _ | .string _, _ => rfl

theorem map_data_of_recordFree : (items : List Value) → ItemsRecordFree items →
    items.map data = items
  | [], _ => rfl
  | value :: rest, ⟨first, others⟩ => by
      rw [List.map_cons, data_of_recordFree value first, map_data_of_recordFree rest others]

theorem mapValues_data_of_recordFree : (entries : List (String × Value)) →
    EntriesRecordFree entries → Entries.mapValues data entries = entries
  | [], _ => rfl
  | (name, value) :: rest, ⟨first, others⟩ => by
      have tail := mapValues_data_of_recordFree rest others
      rw [Entries.mapValues, List.map_cons, data_of_recordFree value first]
      exact congrArg ((name, value) :: ·) tail

end

end Value

end Reshape
