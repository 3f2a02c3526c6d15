import Reshape.Proofs.Access.Dynamic
import Reshape.Proofs.Access.Sources
import Reshape.Proofs.Read.Observation

namespace Reshape

namespace Value

section Views

variable [Record.Display]

theorem viewItems_eq (items : List Value) : viewItems items = items.map view := by
  induction items with
  | nil => rfl
  | cons value rest ih => rw [viewItems, ih, List.map_cons]

theorem viewEntries_eq (entries : List (String × Value)) :
    viewEntries entries = Entries.mapValues view entries := by
  induction entries with
  | nil => rfl
  | cons entry rest ih =>
      obtain ⟨name, value⟩ := entry
      rw [viewEntries, ih]
      rfl

end Views

theorem allWellFormed_iff {items : List Value} :
    AllWellFormed items ↔ ∀ item ∈ items, item.WellFormed := by
  induction items with
  | nil => simp [AllWellFormed]
  | cons item rest ih => simp [AllWellFormed, ih]

theorem entriesWellFormed_iff {entries : List (String × Value)} :
    EntriesWellFormed entries ↔ ∀ entry ∈ entries, entry.2.WellFormed := by
  induction entries with
  | nil => simp [EntriesWellFormed]
  | cons entry rest ih => simp [EntriesWellFormed, ih]

theorem EntriesWellFormed.get? {entries : List (String × Value)} (each : EntriesWellFormed entries)
    (key : String) (value : Value) (found : Entries.get? key entries = some value) :
    value.WellFormed :=
  entriesWellFormed_iff.mp each (key, value) (Entries.mem_of_get? found)

end Value

namespace Record

/-- What a reader sees of a getter's answer is the view of the answer, and the answer is
well-formed where the record is. No answer is seen so that would be shown without end, such as one
that holds its own record again. -/
class Lawful [Accessors] : Prop where
  view_answer (getter : Getter) (record : Record) : (Accessors.answer getter record).view =
    Display.shown getter record (Value.viewEntries record.fields)
  wellFormed_answer (getter : Getter) {record : Record} :
    record.toValue.WellFormed → (Accessors.answer getter record).WellFormed

theorem view_answer (reading : Reading) (stored : Option Value) :
    (answer reading stored).view = View.answer reading (stored.map Value.view) := by
  have held : (stored.map Value.view).getD .null = (stored.getD .null).view := by
    cases stored <;> rfl
  cases reading with
  | stored | custom => exact held.symm
  | upperCase =>
      rw [View.answer, held]
      rfl
  | withType =>
      rw [View.answer, held, Value.typeName_view]
      rfl

theorem wellFormed_answer (reading : Reading) {stored : Option Value}
    (held : ∀ value, stored = some value → value.WellFormed) :
    (answer reading stored).WellFormed := by
  have shown : (stored.getD .null).WellFormed := by
    cases stored with
    | none => trivial
    | some value => exact held value rfl
  cases reading with
  | stored | custom => exact shown
  | upperCase => trivial
  | withType => exact ⟨shown, trivial, trivial⟩

instance Lawful.standard : Lawful where
  view_answer getter record := by
    rw [Value.viewEntries_eq]
    change (answer getter.reading _).view = View.answer getter.reading (Entries.get? _ _)
    rw [Record.view_answer, Entries.get?_mapValues]
    rfl
  wellFormed_answer getter _ wellFormed :=
    Record.wellFormed_answer getter.reading (wellFormed.2.2.get? getter.field)

end Record

end Reshape
