import Reshape.Proofs.Value.Lawful

namespace Reshape

namespace Entries

variable {α β : Type}

theorem get?_filterMap {entries : Entries α} (distinct : Distinct entries)
    (keep : String → α → Option β) (name : String) :
    get? name (entries.filterMap fun entry => (keep entry.1 entry.2).map fun kept => (entry.1, kept)) =
      (get? name entries).bind (keep name) := by
  induction entries with
  | nil => rfl
  | cons entry rest ih =>
      obtain ⟨found, value⟩ := entry
      obtain ⟨fresh, others⟩ := List.nodup_cons.mp distinct
      have tail := ih others
      by_cases same : found = name
      · subst same
        have later : get? found rest = none := get?_of_not_mem fresh
        rw [later] at tail
        cases kept : keep found value with
        | none => simpa [List.filterMap_cons, kept, get?] using tail
        | some shown => simp [kept, get?]
      · cases kept : keep found value with
        | none => simpa [List.filterMap_cons, kept, get?, same] using tail
        | some shown => simpa [List.filterMap_cons, kept, get?, same] using tail

end Entries

section Change

variable {α β : Type} {change : α → β} {answer : Getter → α} {other : Getter → β}

theorem FieldSpec.readBy_mapValues (answers : ∀ getter, change (answer getter) = other getter)
    (spec : FieldSpec) (name : String) (stored : Entries α) :
    spec.readBy other name (Entries.mapValues change stored) =
      (spec.readBy answer name stored).map change := by
  unfold readBy
  cases spec.getter with
  | some getter => exact congrArg some (answers getter).symm
  | none =>
      dsimp only
      split
      · exact Entries.get?_mapValues name stored
      · rfl

theorem Shape.readableBy_mapValues (answers : ∀ getter, change (answer getter) = other getter)
    (shape : Shape) (stored : Entries α) :
    shape.readableBy other (Entries.mapValues change stored) =
      Entries.mapValues change (shape.readableBy answer stored) := by
  have each (name : String) (spec : FieldSpec) :
      (spec.readBy other name (Entries.mapValues change stored)).map (fun value => (name, value)) =
        ((spec.readBy answer name stored).map fun value => (name, value)).map
          fun entry => (entry.1, change entry.2) := by
    rw [FieldSpec.readBy_mapValues answers, Option.map_map, Option.map_map]
    rfl
  exact (List.filterMap_congr fun declared _ => each declared.1 declared.2).trans
    List.map_filterMap.symm

end Change

namespace Record

variable [Accessors]

theorem get?_snapshot (record : Record)
    (declared : ∀ shape, record.shape = some shape → shape.fields.Distinct) (name : String) :
    Entries.get? name record.snapshot = record.get? name := by
  obtain ⟨shape, fields⟩ := record
  cases shape with
  | none => rfl
  | some shape =>
      exact Entries.get?_filterMap (declared shape rfl)
        (fun name spec => spec.readBy (Accessors.answer · ⟨some shape, fields⟩) name fields) name

theorem view_toValue [Lawful] (record : Record) :
    record.toValue.view =
      .record record.typeName (Entries.mapValues Value.view record.snapshot) := by
  obtain ⟨shape, fields⟩ := record
  cases shape with
  | none =>
      rw [toValue, Value.view, Value.viewEntries_eq]
      rfl
  | some shape =>
      rw [toValue, Value.view]
      simp only [← Lawful.view_answer _ ⟨some shape, fields⟩]
      rw [Value.viewEntries_eq, Shape.readableBy_mapValues fun _ => rfl]
      rfl

end Record

def View.get? (view : View) (key : String) : Option View :=
  match view with
  | .list items => (index? key).bind (items[·]?)
  | .map entries | .record _ entries => Entries.get? key entries
  | _ => none

namespace Value

variable [Record.Accessors] [Record.Lawful]

theorem get?_view {value : Value} (wellFormed : value.WellFormed) (key : String) :
    value.view.get? key = (value.get? key).map view := by
  cases value with
  | list items =>
      rw [view, viewItems_eq, View.get?, get?]
      cases index? key <;> simp
  | map entries => rw [view, viewEntries_eq, View.get?, get?, Entries.get?_mapValues]
  | record shape fields =>
      have shown := Record.view_toValue { shape, fields }
      rw [Record.toValue] at shown
      rw [shown, View.get?, Entries.get?_mapValues,
        Record.get?_snapshot _ fun declared => wellFormed.1 declared]
      rfl
  | null | bool | number | string => rfl

end Value

end Reshape
