import Reshape.Proofs.Access.Dynamic
import Reshape.Proofs.Access.Sources
import Reshape.Proofs.Read.Observation
/-!
Data that a record hides. Of the fields that a typed record stores, a reader sees only
those that a public field or a getter shows: a private field without a getter is not seen,
and neither is a field that the shape does not declare. Values are indistinguishable when
they are alike but for such fields, however deep the records stand in them.
-/

namespace Reshape

namespace Shape

variable {α β : Type}

/-- What is stored in the fields that are shown, and nothing else. -/
def exposed (shape : Shape) (stored : Entries α) : Entries α :=
  shape.sources.filterMap fun field => (stored.get? field).map fun value => (field, value)

theorem get?_exposed (shape : Shape) (stored : Entries α) (field : String) :
    Entries.get? field (shape.exposed stored) =
      if field ∈ shape.sources then stored.get? field else none := by
  unfold exposed
  induction shape.sources with
  | nil => rfl
  | cons first rest ih =>
      rw [List.filterMap_cons]
      by_cases same : first = field
      · subst same
        cases found : Entries.get? first stored with
        | some value => simp [Entries.get?]
        | none => simpa [found] using ih
      · have listed : field ∈ first :: rest ↔ field ∈ rest := by simp [Ne.symm same]
        cases found : Entries.get? first stored with
        | some value => simp [Entries.get?, same, ih, listed]
        | none => simp [ih, listed]

theorem exposed_eq_iff {shape : Shape} {stored other : Entries α} :
    shape.exposed stored = shape.exposed other ↔
      ∀ field ∈ shape.sources, stored.get? field = other.get? field := by
  constructor
  · intro same field shown
    have found := congrArg (Entries.get? field) same
    rwa [get?_exposed, get?_exposed, if_pos shown, if_pos shown] at found
  · intro same
    exact List.filterMap_congr fun field shown => by rw [same field shown]

theorem exposed_mapValues (shape : Shape) (change : α → β) (stored : Entries α) :
    shape.exposed (Entries.mapValues change stored) =
      Entries.mapValues change (shape.exposed stored) := by
  have each (field : String) : (Entries.get? field (Entries.mapValues change stored)).map
      (fun value => (field, value)) =
      ((stored.get? field).map fun value => (field, value)).map
        fun entry => (entry.1, change entry.2) := by
    rw [Entries.get?_mapValues]
    cases stored.get? field <;> rfl
  exact (List.filterMap_congr fun field _ => each field).trans List.map_filterMap.symm

end Shape

namespace Value

mutual

/-- The value without what its records hide. -/
def exposed : Value → Value
  | .list items => .list (exposedItems items)
  | .map entries => .map (exposedEntries entries)
  | .record none fields => .record none (exposedEntries fields)
  | .record (some shape) fields => .record (some shape) (shape.exposed (exposedEntries fields))
  | other => other

def exposedItems : List Value → List Value
  | [] => []
  | value :: rest => value.exposed :: exposedItems rest

def exposedEntries : List (String × Value) → List (String × Value)
  | [] => []
  | (name, value) :: rest => (name, value.exposed) :: exposedEntries rest

end

/-- Alike but for what records hide. -/
def Indistinguishable (left right : Value) : Prop := left.exposed = right.exposed

theorem exposedItems_eq (items : List Value) : exposedItems items = items.map exposed := by
  induction items with
  | nil => rfl
  | cons value rest ih => rw [exposedItems, ih, List.map_cons]

theorem exposedEntries_eq (entries : List (String × Value)) :
    exposedEntries entries = Entries.mapValues exposed entries := by
  induction entries with
  | nil => rfl
  | cons entry rest ih =>
      obtain ⟨name, value⟩ := entry
      rw [exposedEntries, ih]
      rfl

theorem exposed_list (items : List Value) : (list items).exposed = .list (items.map exposed) := by
  rw [exposed, exposedItems_eq]

theorem exposed_map (entries : List (String × Value)) :
    (map entries).exposed = .map (Entries.mapValues exposed entries) := by
  rw [exposed, exposedEntries_eq]

theorem exposed_dynamic (fields : List (String × Value)) :
    (record none fields).exposed = .record none (Entries.mapValues exposed fields) := by
  rw [exposed, exposedEntries_eq]

theorem exposed_typed (shape : Shape) (fields : List (String × Value)) :
    (record (some shape) fields).exposed =
      .record (some shape) (shape.exposed (Entries.mapValues exposed fields)) := by
  rw [exposed, exposedEntries_eq]

variable {left right item other : Value} {items others : List Value}
  {entries partners : List (String × Value)}

theorem typeName_exposed (value : Value) : value.exposed.typeName = value.typeName := by
  cases value with
  | record shape fields => cases shape <;> rfl
  | null | bool | number | string | list | map => rfl

theorem rel_iff_map_eq {α β : Type} {change : α → β} {first second : Option α} :
    Option.Rel (fun left right => change left = change right) first second ↔
      first.map change = second.map change := by
  cases first <;> cases second <;> simp

theorem forall₂_exposed_iff :
    List.Forall₂ Indistinguishable items others ↔ items.map exposed = others.map exposed := by
  rw [← List.forall₂_eq_eq_eq, List.forall₂_map_left_iff, List.forall₂_map_right_iff]
  rfl

def EntriesIndistinguishable : List (String × Value) → List (String × Value) → Prop :=
  List.Forall₂ fun left right => left.1 = right.1 ∧ left.2.Indistinguishable right.2

theorem entriesIndistinguishable_iff : EntriesIndistinguishable entries partners ↔
    Entries.mapValues exposed entries = Entries.mapValues exposed partners := by
  unfold EntriesIndistinguishable Entries.mapValues
  rw [← List.forall₂_eq_eq_eq, List.forall₂_map_left_iff, List.forall₂_map_right_iff]
  simp only [Prod.mk.injEq, Indistinguishable]

theorem EntriesIndistinguishable.get? (same : EntriesIndistinguishable entries partners)
    (key : String) : Option.Rel Indistinguishable (Entries.get? key entries)
      (Entries.get? key partners) := by
  apply rel_iff_map_eq.mpr
  rw [← Entries.get?_mapValues, ← Entries.get?_mapValues, entriesIndistinguishable_iff.mp same]

theorem EntriesIndistinguishable.values (same : EntriesIndistinguishable entries partners) :
    List.Forall₂ Indistinguishable (entries.map (·.2)) (partners.map (·.2)) := by
  rw [List.forall₂_map_left_iff, List.forall₂_map_right_iff]
  exact same.imp fun _ _ each => each.2

theorem EntriesIndistinguishable.insert (same : EntriesIndistinguishable entries partners)
    (items : item.Indistinguishable other) (key : String) :
    EntriesIndistinguishable (Entries.insert key item entries)
      (Entries.insert key other partners) := by
  rw [entriesIndistinguishable_iff] at same ⊢
  rw [← Entries.insert_mapValues, ← Entries.insert_mapValues, same,
    show item.exposed = other.exposed from items]

theorem indistinguishable_list_iff : (list items).Indistinguishable (list others) ↔
    List.Forall₂ Indistinguishable items others := by
  rw [forall₂_exposed_iff, Indistinguishable, exposed_list, exposed_list, list.injEq]

theorem indistinguishable_map_iff : (map entries).Indistinguishable (map partners) ↔
    EntriesIndistinguishable entries partners := by
  rw [entriesIndistinguishable_iff, Indistinguishable, exposed_map, exposed_map, map.injEq]

theorem indistinguishable_dynamic_iff :
    (record none entries).Indistinguishable (record none partners) ↔
      EntriesIndistinguishable entries partners := by
  rw [entriesIndistinguishable_iff, Indistinguishable, exposed_dynamic, exposed_dynamic,
    record.injEq]
  simp

theorem indistinguishable_typed_iff {shape : Shape} :
    (record (some shape) entries).Indistinguishable (record (some shape) partners) ↔
      ∀ field ∈ shape.sources, Option.Rel Indistinguishable (Entries.get? field entries)
        (Entries.get? field partners) := by
  have inner : (record (some shape) entries).Indistinguishable (record (some shape) partners) ↔
      shape.exposed (Entries.mapValues exposed entries) =
        shape.exposed (Entries.mapValues exposed partners) := by
    rw [Indistinguishable, exposed_typed, exposed_typed, record.injEq]
    simp
  rw [inner, Shape.exposed_eq_iff]
  simp only [Entries.get?_mapValues, ← rel_iff_map_eq]
  rfl

/-- Where accessors work on their own fields, records differ at most in private fields that
have no getter and in fields that are not declared. -/
theorem indistinguishable_typed_iff_of_own {shape : Shape} (own : shape.OwnAccessors) :
    (record (some shape) entries).Indistinguishable (record (some shape) partners) ↔
      ∀ field spec, (field, spec) ∈ shape.fields →
        spec.visibility = .shown ∨ spec.getter.isSome →
        Option.Rel Indistinguishable (Entries.get? field entries)
          (Entries.get? field partners) := by
  rw [indistinguishable_typed_iff]
  simp only [Shape.mem_sources_iff own, forall_exists_index, and_imp]

theorem shape_eq {shape partner : Option Shape}
    (same : (record shape entries).Indistinguishable (record partner partners)) :
    shape = partner := by
  have kept (shape : Option Shape) (fields : List (String × Value)) :
      ∃ stored, (record shape fields).exposed = .record shape stored := by
    cases shape <;> exact ⟨_, rfl⟩
  obtain ⟨stored, left⟩ := kept shape entries
  obtain ⟨kept, right⟩ := kept partner partners
  rw [Indistinguishable, left, right] at same
  exact (record.inj same).1

theorem typeName_indistinguishable (same : left.Indistinguishable right) :
    left.typeName = right.typeName := by
  rw [← typeName_exposed left, same, typeName_exposed]

theorem paired (same : left.Indistinguishable right) : Paired Indistinguishable left right := by
  have named := typeName_indistinguishable same
  cases left with
  | list items =>
      cases right with
      | list others => exact .list (indistinguishable_list_iff.mp same)
      | null | bool | number | string | map | record => simp [typeName] at named
  | map entries =>
      cases right with
      | map others => exact .map
      | null | bool | number | string | list | record => simp [typeName] at named
  | record shape fields =>
      cases right with
      | record other others => exact .record
      | null | bool | number | string | list | map => simp [typeName] at named
  | null | bool | number | string =>
      cases right with
      | list | map | record => simp [typeName] at named
      | null | bool | number | string => cases same <;> exact .leaf rfl

theorem indistinguishable_stored {shape : Shape}
    (records : (record (some shape) entries).Indistinguishable (record (some shape) partners))
    (same : item.Indistinguishable other) (name : String) :
    (record (some shape) (Entries.insert name item entries)).Indistinguishable
      (record (some shape) (Entries.insert name other partners)) := by
  rw [indistinguishable_typed_iff] at records ⊢
  intro field shown
  rw [Entries.get?_insert, Entries.get?_insert]
  split
  · exact .some same
  · exact records field shown

theorem alike_setItem (each : List.Forall₂ Indistinguishable items others)
    (same : item.Indistinguishable other) (key : String) :
    Alike (List.Forall₂ Indistinguishable) (setItem items key item) (setItem others key other) := by
  have written : (setItem items key item).map (·.map exposed) =
      (setItem others key other).map (·.map exposed) := by
    rw [← setItem_map, ← setItem_map, forall₂_exposed_iff.mp each, show item.exposed = _ from same]
  revert written
  cases setItem items key item <;> cases setItem others key other <;> intro written
  · exact Except.error.inj written
  · contradiction
  · contradiction
  · exact forall₂_exposed_iff.mpr (Except.ok.inj written)

end Value

end Reshape
