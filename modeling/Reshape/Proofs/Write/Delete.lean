import Reshape.Proofs.Write.Place
import Reshape.Proofs.Write.Scaffold

namespace Reshape.Value

section

variable {delimiter : Delimiter} {travelled keys before : List String} {key : String}
  {root container child rest found : Value}

/-- A key under which a container takes one more member: a new name of a map, or the position
behind the last item of a list. -/
def Vacant (container : Value) (key : String) : Prop :=
  match container with
  | .list items => index? key = some items.length
  | .map entries => key ∉ Entries.names entries
  | _ => False

theorem Vacant.accepts (vacant : container.Vacant key) : container.accepts key := by
  cases container with
  | list items =>
      have behind : index? key = some items.length := vacant
      simp [Value.accepts, behind]
  | map entries => rfl
  | null | bool | number | string | record => contradiction

variable [Record.Accessors]

/-- A container without the member that it holds under a key. What stands behind the member
moves up, in its order. -/
def Without (container : Value) (key : String) (child rest : Value) : Prop :=
  match container with
  | .list items => ∃ front back, items = front ++ child :: back ∧ index? key = some front.length ∧
      rest = .list (front ++ back)
  | .map entries => ∃ front back, entries = front ++ (key, child) :: back ∧
      key ∉ Entries.names front ∧ rest = .map (front ++ back)
  | _ => False

theorem exists_without (place : container.inPlace) (held : container.get? key = some child) :
    ∃ rest, container.Without key child rest := by
  cases container with
  | list items =>
      obtain ⟨index, spelled, item⟩ := Option.bind_eq_some_iff.mp held
      obtain ⟨front, back, same, rfl⟩ := split_of_getElem? item
      exact ⟨_, front, back, same, spelled, rfl⟩
  | map entries =>
      obtain ⟨front, back, same, first⟩ := Entries.split_of_get? held
      exact ⟨_, front, back, same, first, rfl⟩
  | record shape fields => contradiction
  | null | bool | number | string => contradiction

theorem Without.get? (without : container.Without key child rest) :
    container.get? key = some child := by
  cases container with
  | list items =>
      obtain ⟨front, back, rfl, position, _⟩ := without
      exact get?_split_list position
  | map entries =>
      obtain ⟨front, back, rfl, first, _⟩ := without
      exact get?_split_map first
  | null | bool | number | string | record => contradiction

theorem Without.lost {entries : List (String × Value)} (distinct : Entries.Distinct entries)
    (without : (map entries).Without key child rest) : rest.get? key = none := by
  obtain ⟨front, back, rfl, first, rfl⟩ := without
  apply Entries.get?_of_not_mem
  have names : (Entries.names front ++ key :: Entries.names back).Nodup := by
    simpa [Entries.Distinct, Entries.names] using distinct
  have later : key ∉ Entries.names back :=
    (List.nodup_cons.mp (List.nodup_append.mp names).2.1).1
  rw [Entries.names, List.map_append, List.mem_append]
  exact not_or.mpr ⟨first, later⟩

theorem deleteAt_of_without (without : container.Without key child rest) :
    deleteAt delimiter travelled container [key] = { root := rest } := by
  cases container with
  | list items =>
      obtain ⟨front, back, rfl, position, rfl⟩ := without
      simp [deleteAt, delete, position, blame, Written.ofResult, Except.mapError,
        List.eraseIdx_append_of_length_le]
  | map entries =>
      obtain ⟨front, back, rfl, first, rfl⟩ := without
      simp [deleteAt, delete, Entries.erase_split first, blame, Written.ofResult, Except.mapError]
  | null | bool | number | string | record => contradiction

/-- What a vacant key takes is the one member that the container did not have before. -/
theorem Vacant.without_put (vacant : container.Vacant key) (value : Value) :
    (container.put key value).Without key value container := by
  cases container with
  | list items =>
      rw [put_behind vacant]
      exact ⟨items, [], rfl, vacant, by rw [List.append_nil]⟩
  | map entries =>
      rw [put_absent vacant]
      exact ⟨entries, [], rfl, vacant, by rw [List.append_nil]⟩
  | null | bool | number | string | record => contradiction

theorem setAt_of_vacant (vacant : container.Vacant key) (value : Value) :
    setAt delimiter travelled container [key] value = { root := container.put key value } := by
  have kept : containerFor key container = container := by
    cases container with
    | null => contradiction
    | bool | number | string | list | map | record => rfl
  rw [setAt, kept, set_of_accepts vacant.accepts]
  rfl

theorem descends_deleteAt (delimiter : Delimiter) (last : String) :
    Descends (deleteAt delimiter) [last] := by
  intro travelled current key child rest place held ahead
  cases rest with
  | nil => simp at ahead
  | cons next others => exact descend_of_get? place held _

theorem descends_setAt (delimiter : Delimiter) (value : Value) (after : List String) :
    Descends (fun travelled current keys => setAt delimiter travelled current keys value) after := by
  intro travelled current key child rest place held _
  have container := containerFor_of_get? held
  have accepted := (put_of_get? place held).1
  have entered := @setAt_of_accepts delimiter _ travelled rest current key
    (container.symm ▸ accepted) value
  simp only [container, valueUnder_of_get? held] at entered
  exact entered

theorem resolve_of_at? (reached : root.at? keys = some found) (delimiter : Delimiter)
    (strict : Bool) : root.resolve delimiter strict (keys.map .key) = .ok (some found) := by
  rw [resolve_eq_ok_iff, Path.parse_keys, Path.evaluate_keys, reached]

section Path

variable {path : PathForm} (parsed : path.parse delimiter = .ok (keys.map .key)) (nonempty : keys ≠ [])
include parsed nonempty

theorem writeDelete_of_at? (reached : root.at? keys = some found) (strict : Bool) :
    root.writeDelete delimiter strict path = deleteAt delimiter [] root keys :=
  writeDelete_of_resolve parsed nonempty (resolve_of_at? reached delimiter strict)

theorem writeDelete_of_absent (absent : root.at? keys = none) :
    root.writeDelete delimiter false path = { root } ∧
      ∃ failure, root.writeDelete delimiter true path = { root, failure := some failure } := by
  obtain ⟨before, key, after, found, stops⟩ := exists_stops absent
  have strictly := resolve_of_stops delimiter root keys stops
  have leniently := resolve_keys_lenient delimiter root keys
  rw [absent] at leniently
  have proper := List.isEmpty_eq_false_iff.mpr nonempty
  constructor
  · simp only [writeDelete, writing, parsed, keysForWriting_keys, proper, leniently,
      Bool.false_eq_true, if_false]
  · refine ⟨.notExist key (delimiter.joinKeys before), ?_⟩
    simp only [writeDelete, writing, parsed, keysForWriting_keys, proper, strictly,
      Bool.false_eq_true, if_false]

end Path

/-- A deletion at a path that leads somewhere takes one member out of the container above it, in
both modes, and leaves all else in place. Where the path leads nowhere nothing changes, and it is
an error in strict mode only. A write under a vacant key is taken back by deleting there. -/
theorem writeDelete_removes {path : PathForm} (free : root.RecordFree)
    (parsed : path.parse delimiter = .ok ((before ++ [key]).map .key)) :
    (∀ found, root.lookup? delimiter path = some found →
      ∃ parent rest, parent.Without key found rest ∧
        (∀ entries, parent = .map entries → Entries.Distinct entries → rest.get? key = none) ∧
        ∀ strict, (root.writeDelete delimiter strict path).Places root before parent rest) ∧
    (root.lookup? delimiter path = none →
      root.writeDelete delimiter false path = { root } ∧
      ∃ failure, root.writeDelete delimiter true path = { root, failure := some failure }) ∧
    (∀ parent, root.lookup? delimiter (.tokens (before.map .key)) = some parent →
      parent.Vacant key → ∀ value,
        let set := root.writeSet delimiter path value
        set.failure = none ∧ set.root.writeDelete delimiter true path = { root }) := by
  have nonempty : before ++ [key] ≠ [] := by simp
  rw [lookup?_keys delimiter root _ parsed, lookup?_keys delimiter root before rfl]
  refine ⟨fun found reached => ?_, writeDelete_of_absent parsed nonempty, ?_⟩
  · have above := reached
    rw [at?_append] at above
    obtain ⟨parent, front, last⟩ := Option.bind_eq_some_iff.mp above
    have held : parent.get? key = some found := by simpa [at?] using last
    obtain ⟨rest, without⟩ := exists_without (free.at? front).inPlace held
    refine ⟨parent, rest, without, ?_, fun strict => ?_⟩
    · rintro entries rfl distinct
      exact without.lost distinct
    · rw [writeDelete_of_at? parsed nonempty reached]
      exact (descends_deleteAt delimiter key).places free front (deleteAt_of_without without)
  · intro parent front vacant value set
    have without := vacant.without_put value
    obtain ⟨next, replaced⟩ := free.exists_replaced front (parent.put key value)
    have written : set = { root := next } :=
      (writeSet_keys parsed root value).trans
        ((descends_setAt delimiter value [key]).along (setAt_of_vacant vacant value) replaced)
    have stands : next.at? (before ++ [key]) = some value := by
      rw [at?_append, replaced.symm.at?, Option.bind_some, at?, without.get?]
      rfl
    have removed : deleteAt delimiter [] next (before ++ [key]) = { root } :=
      (descends_deleteAt delimiter key).along (deleteAt_of_without without) replaced.symm
    rw [written, writeDelete_of_at? parsed nonempty stands, removed]
    exact ⟨rfl, rfl⟩

end

/-- The item behind a deleted one moves up. A position behind the last item holds nothing to
delete until something is written there, and is free again once that is deleted. -/
theorem writeDelete_removes_moving_up :
    let root : Value := .map [("a", .list [.bool true, .null, .string "x"]), ("b", .null)]
    (∀ strict, root.writeDelete .dot strict (.text "a.1") =
      { root := .map [("a", .list [.bool true, .string "x"]), ("b", .null)] }) ∧
    root.writeDelete .dot false (.text "a.3") = { root } ∧
    (∃ failure, root.writeDelete .dot true (.text "a.3") = { root, failure := some failure }) ∧
    (root.writeSet .dot (.text "a.3") .null).failure = none ∧
    (root.writeSet .dot (.text "a.3") .null).root.writeDelete .dot true (.text "a.3") = { root } := by
  intro root
  have free : root.RecordFree := by simp [root, RecordFree, EntriesRecordFree, ItemsRecordFree]
  obtain ⟨inside, -⟩ := @writeDelete_removes .dot ["a"] "1" root _ (.text "a.1") free rfl
  obtain ⟨-, outside, undo⟩ := @writeDelete_removes .dot ["a"] "3" root _ (.text "a.3") free rfl
  have found : root.lookup? .dot (.text "a.1") = some .null := lookup?_keys .dot root ["a", "1"] rfl
  have nothing : root.lookup? .dot (.text "a.3") = none := lookup?_keys .dot root ["a", "3"] rfl
  obtain ⟨parent, rest, without, -, places⟩ := inside .null found
  obtain ⟨leniently, strictly⟩ := outside nothing
  refine ⟨fun strict => ?_, leniently, strictly,
    undo _ (lookup?_keys .dot root ["a"] rfl) rfl .null⟩
  obtain ⟨succeeded, replaced⟩ := places strict
  obtain ⟨child, next, -, held, below, same⟩ := Replaced.cons_iff.mp replaced
  cases held
  cases below
  obtain ⟨front, back, split, position, rfl⟩ := without
  obtain ⟨first, rfl⟩ := List.length_eq_one_iff.mp (Option.some.inj position).symm
  obtain ⟨rfl, -, rfl⟩ := by simpa using split
  rw [Written.mk.injEq]
  exact ⟨same, succeeded⟩

end Reshape.Value
