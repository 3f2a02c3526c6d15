import Reshape.Proofs.Access.Hidden
import Reshape.Proofs.Access.Interface
import Reshape.Proofs.Value.Shown
import Reshape.Proofs.Write.Congruence
/-!
Accessors that give nothing away. A getter that reads its own field alone, and of a record in it
only what is seen, shows nothing of what is hidden. That a setter writes its own field alone is
not enough, for it may copy a hidden field into one that is shown: what it puts there must not
depend on anything hidden. Then no reader can tell indistinguishable values apart, and no write
makes them differ.
-/

namespace Reshape

open Value

namespace Record

/-- Accessors that keep to the fields which they name, and tell nothing of what is hidden. -/
structure Discreet [Accessors] : Prop where
  /-- A getter reads its own field alone, and of that only what is seen. -/
  answers : ∀ {getter : Getter} {shape : Shape} {fields others : Entries Value},
    Option.Rel Indistinguishable (fields.get? getter.field) (others.get? getter.field) →
    (Accessors.answer getter ⟨some shape, fields⟩).Indistinguishable
      (Accessors.answer getter ⟨some shape, others⟩)
  /-- A setter writes its own field alone. -/
  keeps : ∀ (setter : Setter) (record : Record) (value : Value),
    Within setter.field record (Accessors.write setter record value)
  /-- What a setter puts into a field that is shown does not depend on what is hidden. -/
  puts : ∀ {setter : Setter} {shape : Shape} {fields others : Entries Value} {item other : Value},
    setter.field ∈ shape.sources →
    (Value.record (some shape) fields).Indistinguishable (.record (some shape) others) →
    item.Indistinguishable other →
    Option.Rel Indistinguishable
      ((Accessors.write setter ⟨some shape, fields⟩ item).stored? setter.field)
      ((Accessors.write setter ⟨some shape, others⟩ other).stored? setter.field)

end Record

theorem Shape.readableBy_exposed (shape : Shape) (stored : Entries View) :
    shape.readableBy (fun getter => View.answer getter.reading
        (Entries.get? getter.field (shape.exposed stored))) (shape.exposed stored) =
      shape.readableBy (fun getter => View.answer getter.reading (stored.get? getter.field))
        stored := by
  rw [← List.forall₂_eq_eq_eq]
  refine (Shape.rel_readableBy ?answers ?sourced).imp fun _ _ same => Prod.ext same.1 same.2
  case answers =>
    intro getter same
    generalize Entries.get? getter.field (shape.exposed stored) = held,
      stored.get? getter.field = other at same
    cases same with
    | none => rfl
    | some equal => rw [equal]
  case sourced =>
    intro field shown
    rw [Shape.get?_exposed, if_pos shown]
    cases stored.get? field with
    | none => exact .none
    | some value => exact .some rfl

namespace Value

mutual

theorem view_exposed : (value : Value) → value.exposed.view = value.view
  | .list items => by rw [exposed, view, view, viewItems_exposed items]
  | .map entries => by rw [exposed, view, view, viewEntries_exposed entries]
  | .record none fields => by rw [exposed, view, view, viewEntries_exposed fields]
  | .record (some shape) fields => by
      rw [exposed, view, view, viewEntries_eq, ← Shape.exposed_mapValues, ← viewEntries_eq,
        viewEntries_exposed fields]
      exact congrArg _ (shape.readableBy_exposed (viewEntries fields))
  | .null | .bool _ | .number _ | .string _ => rfl

theorem viewItems_exposed : (items : List Value) → viewItems (exposedItems items) = viewItems items
  | [] => rfl
  | value :: rest => by
      rw [exposedItems, viewItems, viewItems, view_exposed value, viewItems_exposed rest]

theorem viewEntries_exposed : (entries : List (String × Value)) →
    viewEntries (exposedEntries entries) = viewEntries entries
  | [] => rfl
  | (name, value) :: rest => by
      rw [exposedEntries, viewEntries, viewEntries, view_exposed value, viewEntries_exposed rest]

end

theorem plain_indistinguishable {item other : Value} (same : item.Indistinguishable other) :
    item.plain = other.plain := by
  have seen : item.view = other.view := by rw [← view_exposed item, same, view_exposed]
  exact congrArg View.plain seen

end Value

namespace Record

variable {first second : Option Value} {item other : Value}

theorem answer_indistinguishable (reading : Reading)
    (same : Option.Rel Indistinguishable first second) :
    (answer reading first).Indistinguishable (answer reading second) := by
  have held : (first.getD .null).Indistinguishable (second.getD .null) :=
    Observation.rel_getD same rfl
  cases reading with
  | stored | custom => exact held
  | upperCase =>
      rw [answer, answer, plain_indistinguishable held]
      rfl
  | withType =>
      rw [answer, answer, typeName_indistinguishable held]
      exact indistinguishable_list_iff.mpr (.cons held (.cons rfl .nil))

theorem rel_storing? (storing : Storing) (same : item.Indistinguishable other) :
    Option.Rel Indistinguishable (storing? storing item) (storing? storing other) := by
  cases storing with
  | plain | custom => exact .some same
  | trimmed =>
      rw [storing?, storing?, plain_indistinguishable same]
      exact .some rfl
  | wrapped => exact .some (indistinguishable_list_iff.mpr (.cons same .nil))
  | dropped => exact .none

theorem discreet_standard : Discreet where
  answers {getter} _ _ _ same := answer_indistinguishable getter.reading same
  keeps := within_write_standard
  puts {setter shape fields others item other} shown records items := by
    have puts := rel_storing? setter.storing items
    change Option.Rel Indistinguishable
      (((storing? setter.storing item).elim _ (Record.store _ setter.field)).stored? setter.field)
      (((storing? setter.storing other).elim _ (Record.store _ setter.field)).stored? setter.field)
    generalize storing? setter.storing item = put, storing? setter.storing other = partner at puts
    cases puts with
    | none => exact indistinguishable_typed_iff.mp records setter.field shown
    | some same =>
        rw [Option.elim_some, Option.elim_some, stored?_store, stored?_store]
        exact .some same

end Record

namespace Value

variable [Record.Accessors] {left right item other : Value}

section Reading

variable (discreet : Record.Discreet)
include discreet

theorem snapshot_indistinguishable {shape partner : Option Shape} {fields others : Entries Value}
    (same : (record shape fields).Indistinguishable (record partner others)) :
    EntriesIndistinguishable (Record.snapshot ⟨shape, fields⟩)
      (Record.snapshot ⟨partner, others⟩) := by
  cases shape_eq same
  cases shape with
  | none => exact indistinguishable_dynamic_iff.mp same
  | some shape =>
      exact Shape.rel_readableBy (fun _ held => discreet.answers held)
        (indistinguishable_typed_iff.mp same)

theorem rel_get?_indistinguishable (same : left.Indistinguishable right) (key : String) :
    Option.Rel Indistinguishable (left.get? key) (right.get? key) := by
  cases paired same with
  | leaf scalar =>
      cases left with
      | list | map | record => contradiction
      | null | bool | number | string => exact .none
  | list each =>
      rw [get?, get?]
      cases index? key with
      | none => exact .none
      | some index => exact Observation.rel_getElem? each index
  | map => exact (indistinguishable_map_iff.mp same).get? key
  | @record shape partner fields others =>
      cases shape_eq same
      cases shape with
      | none => exact (indistinguishable_dynamic_iff.mp same).get? key
      | some shape =>
          change Option.Rel _ ((shape.field? key).bind _) ((shape.field? key).bind _)
          cases declared : shape.field? key with
          | none => exact .none
          | some spec =>
              have member : (key, spec) ∈ shape.fields := Entries.mem_of_get? declared
              exact Shape.rel_readBy (fun _ held => discreet.answers held) fun field shown =>
                indistinguishable_typed_iff.mp same field
                  (Shape.mem_sources.mpr ⟨key, spec, member, shown⟩)

theorem rel_members?_indistinguishable (same : left.Indistinguishable right) :
    Option.Rel (List.Forall₂ Indistinguishable) left.members? right.members? := by
  cases paired same with
  | leaf scalar =>
      cases left with
      | list | map | record => contradiction
      | null | bool | number | string => exact .none
  | list each => exact .some each
  | map => exact .some (indistinguishable_map_iff.mp same).values
  | record => exact .some (snapshot_indistinguishable discreet same).values

end Reading

mutual

/-- The induction is on what is seen of one value: the answers of getters are not stored in it. -/
theorem view_eq_seen [Record.Lawful] (discreet : Record.Discreet) : (seen : View) →
    (left right : Value) → left.Indistinguishable right → left.view = seen → right.view = seen
  | .list views, left, right, same, looks => by
      cases paired same with
      | leaf _ => exact looks
      | list each => rw [view, viewItems_eq_seen discreet views _ _ each (View.list.inj looks)]
      | map => cases looks
      | @record shape _ _ _ => cases shape <;> cases looks
  | .map entries, left, right, same, looks => by
      cases paired same with
      | leaf _ => exact looks
      | @map fields others =>
          have first := (viewEntries_eq fields).symm.trans (View.map.inj looks)
          rw [view, viewEntries_eq,
            viewEntries_eq_seen discreet entries _ _ (indistinguishable_map_iff.mp same) first]
      | list => cases looks
      | @record shape _ _ _ => cases shape <;> cases looks
  | .record typeName entries, left, right, same, looks => by
      cases paired same with
      | leaf _ => exact looks
      | @record shape partner fields others =>
          cases shape_eq same
          have first := View.record.inj ((Record.view_toValue ⟨shape, fields⟩).symm.trans looks)
          rw [← first.1]
          refine (Record.view_toValue ⟨shape, others⟩).trans (congrArg (View.record _) ?_)
          exact viewEntries_eq_seen discreet entries _ _
            (snapshot_indistinguishable discreet same) first.2
      | list | map => cases looks
  | .null, left, right, same, looks | .bool _, left, right, same, looks
  | .number _, left, right, same, looks | .string _, left, right, same, looks => by
      cases paired same with
      | leaf _ => exact looks
      | list | map => cases looks
      | @record shape _ _ _ => cases shape <;> cases looks

theorem viewItems_eq_seen [Record.Lawful] (discreet : Record.Discreet) : (views : List View) →
    (items others : List Value) → List.Forall₂ Indistinguishable items others →
    viewItems items = views → viewItems others = views
  | _, [], [], _, looks => looks
  | [], _ :: _, _, _, looks => by cases looks
  | seen :: views, item :: items, other :: others, .cons same each, looks => by
      have heads := List.cons.inj looks
      rw [viewItems, view_eq_seen discreet seen item other same heads.1,
        viewItems_eq_seen discreet views items others each heads.2]

theorem viewEntries_eq_seen [Record.Lawful] (discreet : Record.Discreet) :
    (views : List (String × View)) → (entries others : Entries Value) →
    EntriesIndistinguishable entries others → Entries.mapValues view entries = views →
    Entries.mapValues view others = views
  | _, [], [], _, looks => looks
  | [], _ :: _, _, _, looks => by cases looks
  | (name, seen) :: views, (first, item) :: items, (second, other) :: others,
      .cons same each, looks => by
      have heads := List.cons.inj looks
      have here := Prod.mk.inj heads.1
      rw [Entries.mapValues, List.map_cons, view_eq_seen discreet seen item other same.2 here.2]
      exact congrArg₂ List.cons (Prod.ext (same.1.symm.trans here.1) rfl)
        (viewEntries_eq_seen discreet views items others each heads.2)

end

theorem observation_indistinguishable [Record.Lawful] (discreet : Record.Discreet) :
    Observation Indistinguishable where
  child same key := rel_get?_indistinguishable discreet same key
  members same := rel_members?_indistinguishable discreet same
  typeName same _ := typeName_indistinguishable same
  list each := indistinguishable_list_iff.mpr each
  leaf _ := rfl
  view {left right} same := (view_eq_seen discreet left.view left right same rfl).symm

section Writing

variable (discreet : Record.Discreet)
include discreet

theorem write_indistinguishable {shape : Shape} {fields others : Entries Value} (setter : Setter)
    (records : (record (some shape) fields).Indistinguishable (record (some shape) others))
    (same : item.Indistinguishable other) :
    (Record.Accessors.write setter ⟨some shape, fields⟩ item).toValue.Indistinguishable
      (Record.Accessors.write setter ⟨some shape, others⟩ other).toValue := by
  have puts (shown : setter.field ∈ shape.sources) := discreet.puts shown records same
  have first := discreet.keeps setter ⟨some shape, fields⟩ item
  have second := discreet.keeps setter ⟨some shape, others⟩ other
  generalize Record.Accessors.write setter ⟨some shape, fields⟩ item = after at puts first ⊢
  generalize Record.Accessors.write setter ⟨some shape, others⟩ other = partner at puts second ⊢
  obtain ⟨_, stored⟩ := after
  obtain ⟨_, held⟩ := partner
  cases first.shape_eq
  cases second.shape_eq
  refine indistinguishable_typed_iff.mpr fun field shown => ?_
  by_cases own : field = setter.field
  · subst own
    exact puts shown
  · change Option.Rel Indistinguishable (Record.stored? _ field) (Record.stored? _ field)
    rw [first.stored?_eq field own, second.stored?_eq field own]
    exact indistinguishable_typed_iff.mp records field shown

theorem alike_set_typed {shape : Shape} {fields others : Entries Value}
    (records : (record (some shape) fields).Indistinguishable (record (some shape) others))
    (same : item.Indistinguishable other) (key : String) :
    Alike Indistinguishable ((record (some shape) fields).set key item)
      ((record (some shape) others).set key other) := by
  rw [set, set, Record.set, Record.set, Record.setBy, Record.setBy]
  dsimp only
  cases declared : shape.field? key with
  | none => rfl
  | some spec =>
      dsimp only
      cases spec.setter with
      | some setter => exact write_indistinguishable discreet setter records same
      | none =>
          dsimp only
          split
          · exact indistinguishable_stored records same key
          · rfl

theorem alike_set (same : left.Indistinguishable right) (items : item.Indistinguishable other)
    (key : String) : Alike Indistinguishable (left.set key item) (right.set key other) := by
  cases paired same with
  | leaf scalar =>
      cases left with
      | list | map | record => contradiction
      | null | bool | number | string => rfl
  | list each =>
      exact (alike_setItem each items key).map fun _ _ => indistinguishable_list_iff.mpr
  | map =>
      exact indistinguishable_map_iff.mpr ((indistinguishable_map_iff.mp same).insert items key)
  | @record shape partner fields others =>
      cases shape_eq same
      cases shape with
      | some shape => exact alike_set_typed discreet same items key
      | none =>
          exact indistinguishable_dynamic_iff.mpr
            ((indistinguishable_dynamic_iff.mp same).insert items key)

theorem congruence_indistinguishable [Record.Lawful] : Congruence Indistinguishable :=
  { observation_indistinguishable discreet with
    map := rfl
    set := alike_set discreet }

end Writing

end Value

end Reshape
