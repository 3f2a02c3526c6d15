import Reshape.Proofs.Access.Containers

namespace Reshape.Value

mutual

/-- No record stands in a value, at any depth. -/
def RecordFree : Value → Prop
  | .list items => ItemsRecordFree items
  | .map entries => EntriesRecordFree entries
  | .record _ _ => False
  | _ => True

def ItemsRecordFree : List Value → Prop
  | [] => True
  | value :: rest => value.RecordFree ∧ ItemsRecordFree rest

def EntriesRecordFree : List (String × Value) → Prop
  | [] => True
  | (_, value) :: rest => value.RecordFree ∧ EntriesRecordFree rest

end

theorem itemsRecordFree_iff {items : List Value} :
    ItemsRecordFree items ↔ ∀ item ∈ items, item.RecordFree := by
  induction items with
  | nil => simp [ItemsRecordFree]
  | cons item rest ih => simp [ItemsRecordFree, ih]

theorem recordFree_list_iff {items : List Value} :
    (list items).RecordFree ↔ ∀ item ∈ items, item.RecordFree := itemsRecordFree_iff

theorem entriesRecordFree_iff {entries : List (String × Value)} :
    EntriesRecordFree entries ↔ ∀ entry ∈ entries, entry.2.RecordFree := by
  induction entries with
  | nil => simp [EntriesRecordFree]
  | cons entry rest ih =>
      obtain ⟨name, value⟩ := entry
      simp [EntriesRecordFree, ih]

theorem recordFree_map_iff {entries : List (String × Value)} :
    (map entries).RecordFree ↔ ∀ entry ∈ entries, entry.2.RecordFree := entriesRecordFree_iff

theorem EntriesRecordFree.get? {entries : List (String × Value)} (free : EntriesRecordFree entries)
    {key : String} {child : Value} (found : Entries.get? key entries = some child) :
    child.RecordFree :=
  entriesRecordFree_iff.mp free (key, child) (Entries.mem_of_get? found)

variable {value : Value}

theorem RecordFree.inPlace (free : value.RecordFree) : value.inPlace := by
  cases value with
  | record shape fields => simp [RecordFree] at free
  | null | bool | number | string | list | map => rfl

theorem RecordFree.get? [Record.Accessors] (free : value.RecordFree) {key : String} {child : Value}
    (found : value.get? key = some child) : child.RecordFree := by
  cases value with
  | list items =>
      obtain ⟨index, _, item⟩ := Option.bind_eq_some_iff.mp found
      exact itemsRecordFree_iff.mp free child (List.mem_of_getElem? item)
  | map entries => exact EntriesRecordFree.get? free found
  | record shape fields => simp [RecordFree] at free
  | null | bool | number | string => simp [Value.get?] at found

theorem EntriesRecordFree.items {entries : List (String × Value)}
    (free : EntriesRecordFree entries) : ItemsRecordFree (entries.map (·.2)) := by
  induction entries with
  | nil => trivial
  | cons entry rest ih => exact ⟨free.1, ih free.2⟩

theorem RecordFree.members? [Record.Accessors] (free : value.RecordFree) {members : List Value}
    (found : value.members? = some members) : ItemsRecordFree members := by
  cases value with
  | list items =>
      cases found
      exact free
  | map entries =>
      cases found
      exact EntriesRecordFree.items free
  | record shape fields => simp [RecordFree] at free
  | null | bool | number | string => simp [Value.members?] at found

theorem EntriesRecordFree.insert {entries : List (String × Value)}
    (free : EntriesRecordFree entries) {placed : Value} (placedFree : placed.RecordFree)
    (key : String) : EntriesRecordFree (Entries.insert key placed entries) := by
  induction entries with
  | nil => exact ⟨placedFree, trivial⟩
  | cons entry rest ih =>
      obtain ⟨name, held⟩ := entry
      unfold Entries.insert
      split
      · exact ⟨placedFree, free.2⟩
      · exact ⟨free.1, ih free.2⟩

theorem RecordFree.put [Record.Accessors] (free : value.RecordFree) {key : String}
    (accepted : value.accepts key)
    {placed : Value} (placedFree : placed.RecordFree) : (value.put key placed).RecordFree := by
  cases value with
  | list items =>
      obtain ⟨index, found, bound⟩ := accepts_list accepted
      have given := recordFree_list_iff.mp free
      rw [put_list found bound, recordFree_list_iff]
      intro item member
      unfold itemsAfter at member
      split at member
      · rcases List.mem_or_eq_of_mem_set member with inside | rfl
        · exact given item inside
        · exact placedFree
      · rcases List.mem_append.mp member with inside | last
        · exact given item inside
        · exact List.mem_singleton.mp last ▸ placedFree
  | map entries => exact EntriesRecordFree.insert free placedFree key
  | null | bool | number | string | record => simp [accepts] at accepted

theorem recordFree_emptyFor (key : String) : (emptyFor key).RecordFree := by
  unfold emptyFor
  split <;> trivial

end Reshape.Value
