import Reshape.Proofs.Write.Place
import Reshape.Proofs.Write.Scaffold
import Reshape.Proofs.Write.Success

namespace Reshape.Value

variable {delimiter : Delimiter} {travelled keys : List String} {key : String}
  {root parent found item : Value} {entries : List (String × Value)} {next : Nat}

/-- The number behind all indices among the names of a map: zero where none is an index. -/
def NextIndex (entries : List (String × Value)) (next : Nat) : Prop :=
  ((∀ name ∈ Entries.names entries, index? name = none) ∧ next = 0) ∨
    ∃ largest, (∃ name ∈ Entries.names entries, index? name = some largest) ∧
      (∀ name ∈ Entries.names entries, ∀ index, index? name = some index → index ≤ largest) ∧
      next = largest + 1

theorem exists_nextKey
    (room : ∀ name ∈ Entries.names entries, index? name ≠ some (UInt64.size - 1)) :
    ∃ next, NextIndex entries next ∧ nextKey entries = toString next := by
  have indices : entries.filterMap (fun entry => index? entry.1) =
      (Entries.names entries).filterMap index? := by
    rw [Entries.names, List.filterMap_map]
    rfl
  unfold nextKey
  rw [indices]
  cases greatest : ((Entries.names entries).filterMap index?).max? with
  | none =>
      have nothing := List.max?_eq_none_iff.mp greatest
      exact ⟨0, .inl ⟨List.filterMap_eq_nil_iff.mp nothing, rfl⟩, rfl⟩
  | some largest =>
      obtain ⟨listed, bound⟩ := List.max?_eq_some_iff.mp greatest
      obtain ⟨name, member, found⟩ := List.mem_filterMap.mp listed
      have small := index?_succ_lt found (room name member)
      refine ⟨largest + 1, .inr ⟨largest, ⟨name, member, found⟩, ?_, rfl⟩, ?_⟩
      · intro name member index found
        exact bound index (List.mem_filterMap.mpr ⟨name, member, found⟩)
      · dsimp only
        rw [Nat.mod_eq_of_lt small]

/-- No name spells the number behind all indices, its decimal least of all. Only the largest
number that an index can be has none behind it. -/
theorem NextIndex.fresh (follows : NextIndex entries next)
    (room : ∀ name ∈ Entries.names entries, index? name ≠ some (UInt64.size - 1)) :
    toString next ∉ Entries.names entries := by
  intro taken
  obtain ⟨plain, rfl⟩ | ⟨largest, ⟨name, member, found⟩, bound, rfl⟩ := follows
  · have zero := plain _ taken
    rw [index?_toString (by decide)] at zero
    contradiction
  · have small := index?_succ_lt found (room name member)
    exact Nat.not_succ_le_self largest (bound _ taken _ (index?_toString small))

theorem pushAt_map (follows : nextKey entries = toString next)
    (fresh : toString next ∉ Entries.names entries) :
    pushAt delimiter travelled (.map entries) item =
      { root := .map (entries ++ [(toString next, item)]) } := by
  rw [← Entries.insert_of_not_mem fresh item, ← follows]
  rfl

section

variable [Record.Accessors]

theorem descends_appendAt (delimiter : Delimiter) (item : Value) (after : List String) :
    Descends (fun travelled current keys => appendAt delimiter travelled current keys item) after := by
  intro travelled current key child rest place held _
  cases rest with
  | nil =>
      have readable : current.has key := by rw [has, held]; rfl
      dsimp only
      rw [appendAt.eq_2, if_pos readable, descend_of_get? place held]
      rfl
  | cons next others => exact descend_of_get? place held _

section Reached

variable (free : root.RecordFree) (reached : root.at? keys = some found)
include free reached

theorem appendAt_places {grown : Value}
    (pushed : pushAt delimiter keys found item = { root := grown }) :
    (appendAt delimiter [] root keys item).Places root keys found grown := by
  have placed : (appendAt delimiter [] root (keys ++ []) item).Places root keys found grown :=
    (descends_appendAt delimiter item []).places free reached pushed
  rwa [List.append_nil] at placed

theorem appendAt_fails {failure : PathError}
    (refused : pushAt delimiter keys found item = { root := found, failure := some failure }) :
    appendAt delimiter [] root keys item = { root, failure := some failure } := by
  have failed : appendAt delimiter [] root (keys ++ []) item = { root, failure := some failure } :=
    (descends_appendAt delimiter item []).fails free reached refused
  rwa [List.append_nil] at failed

end Reached

section Missing

variable (unread : parent.get? key = none)
include unread

theorem appendAt_last : appendAt delimiter travelled parent [key] item =
    if parent.isContainer then
      .ofResult parent (blame delimiter travelled key (parent.set key (.list [item])))
    else missing delimiter travelled key parent := by
  have unreadable : ¬ parent.has key := by simp [has, unread]
  rw [appendAt.eq_2, if_neg unreadable]

theorem appendAt_created (accepted : parent.accepts key) :
    appendAt delimiter travelled parent [key] item = { root := parent.put key (.list [item]) } := by
  have container : parent.isContainer := by
    cases parent with
    | list | map | record => rfl
    | null | bool | number | string => contradiction
  rw [appendAt_last unread, if_pos container, set_of_accepts accepted]
  rfl

theorem appendAt_before {rest : List String} (further : rest ≠ []) :
    appendAt delimiter travelled parent (key :: rest) item =
      missing delimiter travelled key parent := by
  obtain ⟨next, others, rfl⟩ := List.exists_cons_of_ne_nil further
  have unreadable : Slot.at? parent key = none := by simp [Slot.at?_eq, has, unread]
  rw [appendAt, descend, unreadable]

end Missing

theorem appendAt_refused {items : List Value} (unread : (list items).get? key = none)
    (apart : index? key ≠ some items.length) (delimiter : Delimiter) (travelled : List String)
    (item : Value) :
    ∃ reason, appendAt delimiter travelled (.list items) [key] item =
      { root := .list items
        failure := some (.notWritable key (delimiter.joinKeys travelled) reason) } := by
  have refused : (list items).accepts key = false :=
    Bool.eq_false_iff.mpr fun accepted => apart ((accepts_iff_makesRoom unread).mp accepted)
  obtain ⟨reason, fails⟩ := set_of_refuses (by rfl) refused
  refine ⟨reason, ?_⟩
  rw [appendAt_last unread, fails]
  rfl

/-- What comes of an append to the value that its keys lead to. A list takes the item behind its
last one, null becomes a list of it, and a map takes it last, under the number behind all its
indices, which no name spells unless there is none left. A scalar is no place for it. -/
def AppendedTo (delimiter : Delimiter) (root : Value) (keys : List String) (item : Value)
    (written : Written) (found : Value) : Prop :=
  match found with
  | .null => written.Places root keys found (.list [item])
  | .list items => written.Places root keys found (.list (items ++ [item]))
  | .map entries =>
      (∀ name ∈ Entries.names entries, index? name ≠ some (UInt64.size - 1)) →
      ∃ next, NextIndex entries next ∧ toString next ∉ Entries.names entries ∧
        written.Places root keys found (.map (entries ++ [(toString next, item)]))
  | scalar =>
      let failure := .notArrayAccessible (delimiter.joinKeys keys) scalar.typeName
      written = { root, failure := some failure }

/-- What comes of an append below a value that holds nothing under the last key. A map takes a
list of the item under that key, and so does a list whose next position it is. -/
def AppendedUnder (delimiter : Delimiter) (root : Value) (before : List String) (key : String)
    (item : Value) (written : Written) (parent : Value) : Prop :=
  match parent with
  | .map entries => written.Places root before parent (.map (entries ++ [(key, .list [item])]))
  | .list items =>
      if index? key = some items.length then
        written.Places root before parent (.list (items ++ [.list [item]]))
      else ∃ reason, written =
        { root, failure := some (.notWritable key (delimiter.joinKeys before) reason) }
  | _ => written = { root, failure := some (.notExist key (delimiter.joinKeys before)) }

theorem appendAt_reached (free : root.RecordFree) (reached : root.at? keys = some found) :
    AppendedTo delimiter root keys item (appendAt delimiter [] root keys item) found := by
  cases found with
  | null | list => exact appendAt_places free reached rfl
  | map entries =>
      intro room
      obtain ⟨next, follows, named⟩ := exists_nextKey room
      have fresh := follows.fresh room
      exact ⟨next, follows, fresh, appendAt_places free reached (pushAt_map named fresh)⟩
  | bool | number | string => exact appendAt_fails free reached rfl
  | record shape fields => exact (free.at? reached).elim

theorem appendAt_under {before : List String} (free : root.RecordFree)
    (above : root.at? before = some parent) (unread : parent.get? key = none) :
    AppendedUnder delimiter root before key item
      (appendAt delimiter [] root (before ++ [key]) item) parent := by
  have down := descends_appendAt delimiter item [key]
  cases parent with
  | map entries =>
      dsimp only [AppendedUnder]
      rw [← put_absent (Entries.not_mem_of_get? unread)]
      exact down.places free above (appendAt_created unread rfl)
  | list items =>
      dsimp only [AppendedUnder]
      split
      · rename_i behind
        rw [← put_behind behind]
        exact down.places free above
          (appendAt_created unread ((accepts_iff_makesRoom unread).mpr behind))
      · rename_i apart
        obtain ⟨reason, refused⟩ := appendAt_refused unread apart delimiter before item
        exact ⟨reason, down.fails free above refused⟩
  | null | bool | number | string => exact down.fails free above (appendAt_last unread)
  | record shape fields => exact (free.at? above).elim

theorem appendAt_of_stops {before front behind : List String} {holder : Value}
    (free : root.RecordFree) (stops : root.Stops before front key behind holder) (last : String) :
    appendAt delimiter [] root (before ++ [last]) item =
      { root, failure := some (.notExist key (delimiter.joinKeys front)) } := by
  have down := descends_appendAt delimiter item (key :: (behind ++ [last]))
  rw [stops.split, List.append_assoc, List.cons_append]
  exact down.fails free stops.reached (appendAt_before stops.unread (by simp))

/-- An append adds the item to what its path leads to or, where only the last key is missing, a
list of the item to the container above. Nothing else is changed. Where no container is reached
the root stays as it was. -/
theorem writeAppend_places {path : PathForm} (free : root.RecordFree)
    (parsed : path.parse delimiter = .ok (keys.map .key)) :
    let written := root.writeAppend delimiter path item
    (∀ found, root.lookup? delimiter path = some found →
      AppendedTo delimiter root keys item written found) ∧
    (∀ before key, keys = before ++ [key] → root.lookup? delimiter path = none →
      (∀ parent, root.lookup? delimiter (.tokens (before.map .key)) = some parent →
        AppendedUnder delimiter root before key item written parent) ∧
      (root.lookup? delimiter (.tokens (before.map .key)) = none →
        ∃ front missing behind holder, root.Stops before front missing behind holder ∧
          written = { root, failure := some (.notExist missing (delimiter.joinKeys front)) })) := by
  intro written
  have run : written = appendAt delimiter [] root keys item := by
    simp only [written, writeAppend, writing, parsed, keysForWriting_keys]
  rw [lookup?_keys delimiter root _ parsed, run]
  refine ⟨fun found reached => appendAt_reached free reached, fun before key split absent => ?_⟩
  subst split
  rw [lookup?_keys delimiter root before rfl]
  refine ⟨fun parent above => ?_, fun nothing => ?_⟩
  · have unread : parent.get? key = none := by simpa [at?_append, above, at?] using absent
    exact appendAt_under free above unread
  · obtain ⟨front, missing, behind, holder, stops⟩ := exists_stops nothing
    exact ⟨front, missing, behind, holder, stops, appendAt_of_stops free stops key⟩

end

/-- The number goes on from a name with a sign. A flag takes no item, under itself or a new key. -/
theorem writeAppend_places_number :
    let log : List (String × Value) := [("+7", .null), ("a", .null)]
    let root : Value := .map [("log", .map log), ("done", .bool true)]
    (∃ next, NextIndex log next ∧ toString next ∉ Entries.names log ∧
      (root.writeAppend .dot (.text "log") .null).Places root ["log"] (.map log)
        (.map (log ++ [(toString next, .null)]))) ∧
    (root.writeAppend .dot (.text "log") .null).root =
      .map [("log", .map (log ++ [("8", .null)])), ("done", .bool true)] ∧
    root.writeAppend .dot (.text "done") .null =
      { root, failure := some (.notArrayAccessible "done" "bool") } ∧
    (root.writeAppend .dot (.text "tags") .null).Places root [] root
      (.map [("log", .map log), ("done", .bool true), ("tags", .list [.null])]) ∧
    root.writeAppend .dot (.text "done.on") .null =
      { root, failure := some (.notExist "on" "done") } := by
  intro log root
  have free : root.RecordFree := by simp [root, log, RecordFree, EntriesRecordFree]
  have room : ∀ name ∈ Entries.names log, index? name ≠ some (UInt64.size - 1) := by decide
  have whole : root.lookup? .dot (.tokens []) = some root := lookup?_keys .dot root [] rfl
  have flag {path : PathForm} (parsed : path.parse .dot = .ok [.key "done"]) :
      root.lookup? .dot path = some (.bool true) := lookup?_keys .dot root ["done"] parsed
  refine ⟨?_, rfl, ?_, ?_, ?_⟩
  · exact (@writeAppend_places .dot ["log"] root .null _ _ free rfl).1 (.map log)
      (lookup?_keys .dot root ["log"] rfl) room
  · exact (@writeAppend_places .dot ["done"] root .null _ _ free rfl).1 _ (flag rfl)
  · exact ((@writeAppend_places .dot ["tags"] root .null _ _ free rfl).2 [] "tags" rfl
      (lookup?_keys .dot root ["tags"] rfl)).1 root whole
  · exact ((@writeAppend_places .dot ["done", "on"] root .null _ _ free rfl).2 ["done"] "on" rfl
      (lookup?_keys .dot root ["done", "on"] rfl)).1 _ (flag rfl)

end Reshape.Value
