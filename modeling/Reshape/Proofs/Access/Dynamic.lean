import Mathlib.Data.List.InsertIdx
import Reshape.Access.Slot
import Reshape.Proofs.Access.Containers
import Reshape.Proofs.Access.Shapes
import Reshape.Proofs.Attempt
import Reshape.Proofs.Read.Simulation

namespace Reshape

namespace Entries

variable {α β : Type} {change : α → β}

def mapValues (change : α → β) (entries : Entries α) : Entries β :=
  entries.map fun entry => (entry.1, change entry.2)

theorem get?_mapValues (key : String) (entries : Entries α) :
    get? key (mapValues change entries) = (get? key entries).map change := by
  induction entries with
  | nil => rfl
  | cons entry rest ih =>
      obtain ⟨found, value⟩ := entry
      by_cases same : found = key
      · simp [mapValues, get?, same]
      · simpa [mapValues, get?, same] using ih

theorem insert_mapValues (key : String) (value : α) (entries : Entries α) :
    insert key (change value) (mapValues change entries) =
      mapValues change (insert key value entries) := by
  induction entries with
  | nil => rfl
  | cons entry rest ih =>
      obtain ⟨found, old⟩ := entry
      by_cases same : found = key
      · simp [mapValues, insert, same]
      · simpa [mapValues, insert, same] using ih

theorem erase_mapValues (key : String) (entries : Entries α) :
    erase key (mapValues change entries) = mapValues change (erase key entries) := by
  induction entries with
  | nil => rfl
  | cons entry rest ih =>
      obtain ⟨found, old⟩ := entry
      by_cases same : found = key
      · simp [mapValues, erase, same]
      · simpa [mapValues, erase, same] using ih

end Entries

namespace Value

mutual

/-- Every dynamic record, at any depth, taken as the map of its fields. -/
def toMaps : Value → Value
  | .list items => .list (itemsToMaps items)
  | .map entries => .map (entriesToMaps entries)
  | .record none fields => .map (entriesToMaps fields)
  | .record (some shape) fields => .record (some shape) (entriesToMaps fields)
  | other => other

def itemsToMaps : List Value → List Value
  | [] => []
  | value :: rest => value.toMaps :: itemsToMaps rest

def entriesToMaps : List (String × Value) → List (String × Value)
  | [] => []
  | (name, value) :: rest => (name, value.toMaps) :: entriesToMaps rest

end

theorem itemsToMaps_eq (items : List Value) : itemsToMaps items = items.map toMaps := by
  induction items with
  | nil => rfl
  | cons value rest ih => rw [itemsToMaps, ih, List.map_cons]

theorem entriesToMaps_eq (entries : List (String × Value)) :
    entriesToMaps entries = Entries.mapValues toMaps entries := by
  induction entries with
  | nil => rfl
  | cons entry rest ih =>
      obtain ⟨name, value⟩ := entry
      rw [entriesToMaps, ih]
      rfl

theorem toMaps_list (items : List Value) : (list items).toMaps = .list (items.map toMaps) := by
  rw [toMaps, itemsToMaps_eq]

theorem toMaps_map (entries : List (String × Value)) :
    (map entries).toMaps = .map (Entries.mapValues toMaps entries) := by
  rw [toMaps, entriesToMaps_eq]

theorem toMaps_dynamic (fields : List (String × Value)) :
    (record none fields).toMaps = .map (Entries.mapValues toMaps fields) := by
  rw [toMaps, entriesToMaps_eq]

/-- All records in the value are dynamic. -/
def Dynamic (value : Value) : Prop := value.ShapedBy (· = none)

/-- The container itself is no record of a declared shape. -/
def Untyped (container : Value) : Prop :=
  ∀ shape fields, container = .record shape fields → shape = none

theorem Dynamic.untyped {value : Value} (dynamic : value.Dynamic) : value.Untyped := by
  intro shape fields same
  subst same
  exact dynamic.1

theorem untyped_dynamic (fields : List (String × Value)) : (record none fields).Untyped := by
  intro shape others same
  cases same
  rfl

variable {container child after : Value} {key : String}

theorem isNull_toMaps (value : Value) : value.toMaps.isNull = value.isNull := by
  cases value with
  | record shape fields => cases shape <;> rfl
  | null | bool | number | string | list | map => rfl

theorem isContainer_toMaps (value : Value) : value.toMaps.isContainer = value.isContainer := by
  cases value with
  | record shape fields => cases shape <;> rfl
  | null | bool | number | string | list | map => rfl

theorem toMaps_emptyFor (key : String) : (emptyFor key).toMaps = emptyFor key := by
  unfold emptyFor
  split <;> rfl

theorem setItem_map (change : Value → Value) (items : List Value) (key : String) (value : Value) :
    setItem (items.map change) key (change value) =
      (setItem items key value).map (·.map change) := by
  unfold setItem
  cases index? key with
  | none => rfl
  | some index =>
      dsimp only
      rw [List.length_map]
      split
      · rw [← List.map_set]
        rfl
      · split
        · simp [Except.map]
        · rfl

theorem delete_toMaps (untyped : container.Untyped) (key : String) :
    container.toMaps.delete key = (container.delete key).map toMaps := by
  cases container with
  | list items =>
      rw [toMaps_list, delete, delete]
      cases index? key with
      | none => exact congrArg Except.ok (toMaps_list items).symm
      | some index =>
          dsimp only
          rw [List.eraseIdx_map, ← toMaps_list]
          rfl
  | map entries =>
      rw [toMaps_map, delete, delete, Entries.erase_mapValues, ← toMaps_map]
      rfl
  | record shape fields =>
      cases untyped shape fields rfl
      have removed : (record none fields).delete key =
          .ok (.record none (Entries.erase key fields)) := by
        cases found : Entries.get? key fields with
        | some value => simp [delete, Record.has, Entries.has, found, Record.remove,
            Record.removable, Record.toValue, Except.map]
        | none =>
            have absent := Entries.not_mem_of_get? found
            simp [delete, Record.has, Entries.has, found, Entries.erase_of_not_mem absent]
      rw [toMaps_dynamic, removed, delete, Entries.erase_mapValues, ← toMaps_dynamic]
      rfl
  | null | bool | number | string => rfl

theorem nextKey_mapValues (entries : List (String × Value)) :
    nextKey (Entries.mapValues toMaps entries) = nextKey entries := by
  simp [nextKey, Entries.mapValues, List.filterMap_map]

/-- No record, which takes no further item though the map of its fields does. -/
def Unrecorded (value : Value) : Prop := ∀ shape fields, value ≠ .record shape fields

theorem push_toMaps (unrecorded : container.Unrecorded) (item : Value) :
    container.toMaps.push item.toMaps = (container.push item).map toMaps := by
  cases container with
  | list items =>
      rw [toMaps_list, push, push]
      exact congrArg Except.ok (by rw [toMaps_list, List.map_append]; rfl)
  | map entries =>
      rw [toMaps_map, push, push, nextKey_mapValues, Entries.insert_mapValues, ← toMaps_map]
      rfl
  | record shape fields => exact absurd rfl (unrecorded shape fields)
  | null | bool | number | string => rfl

variable [Record.Accessors]

theorem get?_toMaps (untyped : container.Untyped) (key : String) :
    container.toMaps.get? key = (container.get? key).map toMaps := by
  cases container with
  | list items =>
      rw [toMaps_list, get?, get?]
      cases index? key <;> simp
  | map entries => rw [toMaps_map, get?, get?, Entries.get?_mapValues]
  | record shape fields =>
      cases untyped shape fields rfl
      rw [toMaps_dynamic, get?, Entries.get?_mapValues]
      rfl
  | null | bool | number | string => rfl

theorem has_toMaps (untyped : container.Untyped) (key : String) :
    container.toMaps.has key = container.has key := by
  rw [has, has, get?_toMaps untyped, Option.isSome_map]

theorem held?_of_get? (untyped : container.Untyped) : container.get? key = container.held? key := by
  cases container with
  | record shape fields =>
      cases untyped shape fields rfl
      rfl
  | null | bool | number | string | list | map => rfl

theorem Dynamic.get? (dynamic : container.Dynamic) (found : container.get? key = some child) :
    child.Dynamic :=
  ShapedBy.held? dynamic ((held?_of_get? dynamic.untyped).symm.trans found)

theorem Dynamic.slot (dynamic : container.Dynamic) : ((container.get? key).getD .null).Dynamic := by
  cases found : container.get? key with
  | none => trivial
  | some child => exact dynamic.get? found

theorem set_toMaps (untyped : container.Untyped) (key : String) (value : Value) :
    container.toMaps.set key value.toMaps = (container.set key value).map toMaps := by
  cases container with
  | list items =>
      rw [toMaps_list, set, set, setItem_map toMaps]
      cases setItem items key value with
      | error failure => rfl
      | ok written => exact congrArg Except.ok (toMaps_list written).symm
  | map entries =>
      rw [toMaps_map, set, set, Entries.insert_mapValues, ← toMaps_map]
      rfl
  | record shape fields =>
      cases untyped shape fields rfl
      rw [toMaps_dynamic, set, Entries.insert_mapValues, ← toMaps_dynamic]
      rfl
  | null | bool | number | string => rfl

theorem Untyped.set (untyped : container.Untyped) {value : Value}
    (written : container.set key value = .ok after) : after.Untyped := by
  cases container with
  | list items =>
      obtain ⟨_, _, rfl⟩ := map_eq_ok_iff.mp written
      exact fun _ _ same => Value.noConfusion same
  | map entries =>
      cases written
      exact fun _ _ same => Value.noConfusion same
  | record shape fields =>
      cases untyped shape fields rfl
      cases written
      exact untyped_dynamic _
  | null | bool | number | string => contradiction

theorem get?_of_set (untyped : container.Untyped) {value : Value}
    (written : container.set key value = .ok after) : after.get? key = some value := by
  cases container with
  | list items =>
      cases accepted : (list items).accepts key with
      | true =>
          rw [set_of_accepts accepted] at written
          cases written
          exact get?_put accepted value
      | false =>
          obtain ⟨failure, refused⟩ := set_of_refuses rfl accepted
          rw [refused] at written
          contradiction
  | map entries =>
      cases written
      rw [get?, Entries.get?_insert, if_pos rfl]
  | record shape fields =>
      cases untyped shape fields rfl
      cases written
      change Entries.get? key (Entries.insert key value fields) = some value
      rw [Entries.get?_insert, if_pos rfl]
  | null | bool | number | string => contradiction

end Value

namespace Slot

open Value

variable [Record.Accessors]

/-- A slot, and the slot at the same key once records are taken as maps: what is read and
written through the one corresponds to what is read and written through the other. -/
structure Mirrors (first second : Slot) : Prop where
  dynamic : first.get.Dynamic
  get : second.get = first.get.toMaps
  set : ∀ value, second.set value.toMaps = (first.set value).map toMaps
  container : second.container = first.container.toMaps

variable {container : Value} {key : String}

theorem entry_mirrors (untyped : container.Untyped)
    (dynamic : ((container.get? key).getD .null).Dynamic) :
    Mirrors (.entry container key) (.entry container.toMaps key) where
  dynamic := dynamic
  get := by
    rw [Slot.get, Slot.get, get?_toMaps untyped]
    cases container.get? key <;> rfl
  set := set_toMaps untyped key
  container := rfl

theorem property_mirrors {fields : List (String × Value)}
    (dynamic : (((record none fields).get? key).getD .null).Dynamic) :
    Mirrors (.property ⟨none, fields⟩ key) (.entry (record none fields).toMaps key) :=
  { entry_mirrors (untyped_dynamic fields) dynamic with }

theorem at?_toMaps (dynamic : container.Dynamic) (key : String) :
    Option.Rel Mirrors (Slot.at? container key) (Slot.at? container.toMaps key) := by
  unfold Slot.at?
  rw [has_toMaps dynamic.untyped]
  split
  · cases container with
    | record shape fields =>
        cases dynamic.1
        exact .some (property_mirrors dynamic.slot)
    | list | map => exact .some (entry_mirrors dynamic.untyped dynamic.slot)
    | null | bool | number | string => contradiction
  · exact .none

theorem fresh_dynamic (untyped : container.Untyped) {default after : Value}
    (dynamic : default.Dynamic) (written : container.set key default = .ok after) :
    ((after.get? key).getD .null).Dynamic := by
  rw [get?_of_set untyped written]
  exact dynamic

theorem obtain_entry_toMaps (dynamic : container.Dynamic) (key : String) {default : Value}
    (defaultDynamic : default.Dynamic) :
    Alike Mirrors
      (if container.has key then .ok (.entry container key)
        else (container.set key default).map (.entry · key))
      (if container.toMaps.has key then .ok (.entry container.toMaps key)
        else (container.toMaps.set key default.toMaps).map (.entry · key)) := by
  rw [has_toMaps dynamic.untyped, set_toMaps dynamic.untyped]
  split
  · exact entry_mirrors dynamic.untyped dynamic.slot
  · cases written : container.set key default with
    | error failure => rfl
    | ok after =>
        exact entry_mirrors (dynamic.untyped.set written)
          (fresh_dynamic dynamic.untyped defaultDynamic written)

theorem obtain_property_toMaps {fields : List (String × Value)}
    (dynamic : (record none fields).Dynamic) (key : String) {default : Value}
    (defaultDynamic : default.Dynamic) :
    Alike Mirrors (Slot.obtain (record none fields) key default)
      (Slot.obtain (record none fields).toMaps key default.toMaps) := by
  have present := has_toMaps dynamic.untyped key
  have written := set_toMaps dynamic.untyped key default
  cases found : (record none fields).has key with
  | true =>
      rw [found] at present
      have first : Slot.obtain (record none fields) key default =
          .ok (.property ⟨none, fields⟩ key) := if_pos found
      have second : Slot.obtain (record none fields).toMaps key default.toMaps =
          .ok (.entry (record none fields).toMaps key) := if_pos present
      rw [first, second]
      exact property_mirrors dynamic.slot
  | false =>
      rw [found] at present
      let stored := Entries.insert key default fields
      have first : Slot.obtain (record none fields) key default =
          .ok (.property ⟨none, stored⟩ key) := if_neg (Bool.eq_false_iff.mp found)
      have second : Slot.obtain (record none fields).toMaps key default.toMaps =
          .ok (.entry (record none stored).toMaps key) := by
        have entered : Slot.obtain (record none fields).toMaps key default.toMaps =
            ((record none fields).toMaps.set key default.toMaps).map (.entry · key) :=
          if_neg (Bool.eq_false_iff.mp present)
        rw [entered, written]
        rfl
      rw [first, second]
      exact property_mirrors (fresh_dynamic (untyped_dynamic fields) defaultDynamic rfl)

theorem obtain_toMaps (dynamic : container.Dynamic) (key : String) {default : Value}
    (defaultDynamic : default.Dynamic) :
    Alike Mirrors (Slot.obtain container key default)
      (Slot.obtain container.toMaps key default.toMaps) := by
  cases container with
  | list items => exact obtain_entry_toMaps dynamic key defaultDynamic
  | map entries => exact obtain_entry_toMaps dynamic key defaultDynamic
  | record shape fields =>
      cases dynamic.1
      exact obtain_property_toMaps dynamic key defaultDynamic
  | null | bool | number | string => rfl

end Slot

end Reshape
