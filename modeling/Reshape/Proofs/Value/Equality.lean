import Reshape.Proofs.Value.Shown

namespace Reshape

namespace View

mutual

/-- No map and no record of the view, at any depth, names two of its entries alike. -/
def WellFormed : View → Prop
  | .list items => AllWellFormed items
  | .map entries | .record _ entries => Entries.Distinct entries ∧ EntriesWellFormed entries
  | _ => True

def AllWellFormed : List View → Prop
  | [] => True
  | view :: rest => view.WellFormed ∧ AllWellFormed rest

def EntriesWellFormed : List (String × View) → Prop
  | [] => True
  | (_, view) :: rest => view.WellFormed ∧ EntriesWellFormed rest

end

theorem sameEntries_iff {lefts rights : List (String × View)} :
    sameEntries lefts rights ↔
      ∀ entry ∈ lefts, ∃ right, Entries.get? entry.1 rights = some right ∧ entry.2.same right := by
  induction lefts with
  | nil => simp [sameEntries]
  | cons entry rest ih =>
      obtain ⟨name, left⟩ := entry
      rw [sameEntries, Bool.and_eq_true, ih, List.forall_mem_cons]
      cases found : Entries.get? name rights <;> simp

theorem number_same_self (number : Number) : number.same number := by
  cases number <;> simp [Number.same, Binary64.same]

mutual

theorem same_self : (view : View) → view.WellFormed → view.same view
  | .null, _ => rfl
  | .bool value, _ => by simp [same]
  | .number value, _ => by
      rw [same]
      exact number_same_self value
  | .string value, _ => by simp [same]
  | .list items, each => by
      rw [same]
      exact sameItems_self items each
  | .map entries, ⟨distinct, each⟩ => by
      simpa [same] using sameEntries_self entries entries each fun entry member =>
        Entries.get?_of_mem distinct member
  | .record typeName entries, ⟨distinct, each⟩ => by
      simpa [same] using sameEntries_self entries entries each fun entry member =>
        Entries.get?_of_mem distinct member

theorem sameItems_self : (items : List View) → AllWellFormed items → sameItems items items
  | [], _ => rfl
  | view :: rest, ⟨first, others⟩ => by
      rw [sameItems, same_self view first, sameItems_self rest others]
      rfl

theorem sameEntries_self : (entries all : List (String × View)) → EntriesWellFormed entries →
    (∀ entry ∈ entries, Entries.get? entry.1 all = some entry.2) → sameEntries entries all
  | [], _, _, _ => rfl
  | (name, view) :: rest, all, ⟨first, others⟩, held => by
      obtain ⟨here, later⟩ := List.forall_mem_cons.mp held
      rw [sameEntries, here]
      exact Bool.and_eq_true_iff.mpr
        ⟨same_self view first, sameEntries_self rest all others later⟩

end

end View

namespace Value

section Reading

variable [Record.Accessors]

theorem distinct_snapshot (record : Record) (wellFormed : record.toValue.WellFormed) :
    Entries.Distinct record.snapshot := by
  obtain ⟨shape, fields⟩ := record
  cases shape with
  | none => exact wellFormed.2.1
  | some shape => exact (shape.names_readableBy _ _).nodup (wellFormed.1 shape rfl)

variable [Record.Lawful] {value child : Value} {key : String}

theorem wellFormed_snapshot (record : Record) (wellFormed : record.toValue.WellFormed) :
    EntriesWellFormed record.snapshot := by
  rw [entriesWellFormed_iff]
  obtain ⟨shape, fields⟩ := record
  cases shape with
  | none => exact entriesWellFormed_iff.mp wellFormed.2.2
  | some shape =>
      exact Shape.holds_of_readableBy (fun getter => Record.Lawful.wellFormed_answer getter wellFormed)
        wellFormed.2.2.get? shape

theorem WellFormed.get? (wellFormed : value.WellFormed) (found : value.get? key = some child) :
    child.WellFormed := by
  cases value with
  | list items =>
      obtain ⟨index, _, item⟩ := Option.bind_eq_some_iff.mp found
      exact allWellFormed_iff.mp wellFormed child (List.mem_of_getElem? item)
  | map entries => exact wellFormed.2.get? key child found
  | record shape fields =>
      have held : Entries.get? key (Record.snapshot ⟨shape, fields⟩) = some child :=
        (Record.get?_snapshot ⟨shape, fields⟩ wellFormed.1 key).trans found
      exact (wellFormed_snapshot ⟨shape, fields⟩ wellFormed).get? key child held
  | null | bool | number | string => contradiction

theorem WellFormed.members? {members : List Value} (wellFormed : value.WellFormed)
    (found : value.members? = some members) : ∀ member ∈ members, member.WellFormed := by
  cases value with
  | list items =>
      cases found
      exact allWellFormed_iff.mp wellFormed
  | map entries =>
      cases found
      exact List.forall_mem_map.mpr (entriesWellFormed_iff.mp wellFormed.2)
  | record shape fields =>
      cases found
      have snapshot := wellFormed_snapshot ⟨shape, fields⟩ wellFormed
      exact List.forall_mem_map.mpr (entriesWellFormed_iff.mp snapshot)
  | null | bool | number | string => contradiction

end Reading

theorem same_map [Record.Display] {entries others : List (String × Value)}
    (distinct : Entries.Distinct entries) (otherDistinct : Entries.Distinct others)
    (listed : ∀ name, name ∈ Entries.names entries ↔ name ∈ Entries.names others)
    (each : ∀ name value other, Entries.get? name entries = some value →
      Entries.get? name others = some other → value.same other) :
    (map entries).same (map others) := by
  have permuted : (Entries.names entries).Perm (Entries.names others) :=
    (List.perm_ext_iff_of_nodup distinct otherDistinct).mpr listed
  have lengths : (viewEntries entries).length = (viewEntries others).length := by
    simpa [viewEntries_eq, Entries.mapValues, Entries.names] using permuted.length_eq
  change (_ == _ && _) = true
  rw [lengths, beq_self_eq_true, Bool.true_and, View.sameEntries_iff, viewEntries_eq,
    viewEntries_eq]
  intro entry member
  obtain ⟨⟨name, value⟩, inside, rfl⟩ := List.mem_map.mp member
  obtain ⟨other, found⟩ := Entries.exists_get?_of_mem_names
    ((listed name).mp (List.mem_map_of_mem inside))
  refine ⟨other.view, ?_, each name value other (Entries.get?_of_mem distinct inside) found⟩
  rw [Entries.get?_mapValues, found, Option.map_some]

theorem distinct_mapValues_view [Record.Display] {entries : Entries Value}
    (distinct : entries.Distinct) :
    Entries.Distinct (Entries.mapValues view entries) := by
  simpa [Entries.Distinct, Entries.names, Entries.mapValues, Function.comp_def] using distinct

mutual

/-- The induction is on what is seen of the value: a getter may answer with values that are not
stored in the record. -/
theorem wellFormed_seen [Record.Accessors] [Record.Lawful] : (seen : View) → (value : Value) →
    value.WellFormed → value.view = seen → seen.WellFormed
  | .list views, value, wellFormed, looks => by
      cases value with
      | list items => exact allWellFormed_seen views items wellFormed (View.list.inj looks)
      | record shape fields => cases shape <;> cases looks
      | null | bool | number | string | map => cases looks
  | .map entries, value, wellFormed, looks => by
      cases value with
      | map fields =>
          have same : Entries.mapValues view fields = entries :=
            (viewEntries_eq fields).symm.trans (View.map.inj looks)
          exact ⟨same ▸ distinct_mapValues_view wellFormed.1,
            entriesWellFormed_seen entries fields wellFormed.2 same⟩
      | record shape fields => cases shape <;> cases looks
      | null | bool | number | string | list => cases looks
  | .record typeName entries, value, wellFormed, looks => by
      cases value with
      | record shape fields =>
          have shown := (Record.view_toValue ⟨shape, fields⟩).symm.trans looks
          have same := (View.record.inj shown).2
          exact ⟨same ▸ distinct_mapValues_view (distinct_snapshot ⟨shape, fields⟩ wellFormed),
            entriesWellFormed_seen entries _ (wellFormed_snapshot ⟨shape, fields⟩ wellFormed) same⟩
      | null | bool | number | string | list | map => cases looks
  | .null, _, _, _ | .bool _, _, _, _ | .number _, _, _, _ | .string _, _, _, _ => trivial

theorem allWellFormed_seen [Record.Accessors] [Record.Lawful] : (views : List View) →
    (items : List Value) → AllWellFormed items → viewItems items = views →
    View.AllWellFormed views
  | [], _, _, _ => trivial
  | _ :: _, [], _, looks => by cases looks
  | seen :: views, value :: items, ⟨first, others⟩, looks =>
      have heads := List.cons.inj looks
      ⟨wellFormed_seen seen value first heads.1, allWellFormed_seen views items others heads.2⟩

theorem entriesWellFormed_seen [Record.Accessors] [Record.Lawful] :
    (views : List (String × View)) → (entries : Entries Value) → EntriesWellFormed entries →
    Entries.mapValues view entries = views → View.EntriesWellFormed views
  | [], _, _, _ => trivial
  | _ :: _, [], _, looks => by cases looks
  | (name, seen) :: views, (_, value) :: entries, ⟨first, others⟩, looks =>
      have heads := List.cons.inj looks
      ⟨wellFormed_seen seen value first (Prod.ext_iff.mp heads.1).2,
        entriesWellFormed_seen views entries others heads.2⟩

end

section Views

variable [Record.Accessors] [Record.Lawful]

theorem wellFormed_view (value : Value) (wellFormed : value.WellFormed) : value.view.WellFormed :=
  wellFormed_seen value.view value wellFormed rfl

theorem same_self (value : Value) (wellFormed : value.WellFormed) : value.same value :=
  View.same_self value.view (wellFormed_view value wellFormed)

end Views

theorem observation_wellFormed [Record.Accessors] [Record.Lawful] :
    Observation fun left right => left.WellFormed ∧ left = right := by
  apply Observation.of_kept
  case child => exact fun wellFormed found => wellFormed.get? found
  case members => exact fun wellFormed found => wellFormed.members? found
  case list => exact allWellFormed_iff.mpr
  case leaf =>
    intro value scalar
    cases value with
    | null | bool | number | string => trivial
    | list | map | record => contradiction

end Value

end Reshape
