import Reshape.Proofs.Path.Segment
import Reshape.Proofs.Write.Atomic
import Reshape.Proofs.Write.Congruence

namespace Reshape

theorem Slot.at?_eq [Record.Accessors] (container : Value) (key : String) :
    at? container key = if container.has key then some (within container key) else none := by
  cases container <;> rfl

theorem Slot.at?_of_get? [Record.Accessors] {container child : Value} {key : String}
    (here : container.get? key = some child) : at? container key = some (within container key) := by
  rw [at?_eq, Value.has, here]
  rfl

theorem Slot.obtain_of_get? [Record.Accessors] {container child : Value} {key : String}
    (here : container.get? key = some child) (default : Value) :
    obtain container key default = .ok (within container key) := by
  have contained : container.isContainer := by
    cases container with
    | list | map | record => rfl
    | null | bool | number | string => contradiction
  rw [obtain_eq contained, Value.has, here]
  rfl

namespace Value

section

variable [Record.Accessors] {delimiter : Delimiter} {travelled keys before after : List String}
  {root current found : Value} {key : String}

theorem updateAt_eq_setAt (reached : current.at? keys = some found) (value : Value) :
    updateAt delimiter travelled current keys value =
      setAt delimiter travelled current keys value := by
  induction keys generalizing travelled current with
  | nil => rfl
  | cons key rest ih =>
      obtain ⟨child, here, below⟩ := Option.bind_eq_some_iff.mp reached
      have container := containerFor_of_get? here
      cases rest with
      | nil =>
          have readable : current.has key := by rw [has, here]; rfl
          rw [updateAt, if_pos readable, setAt, container]
      | cons next others =>
          have held : (Slot.within current key).get = child := by
            rw [Slot.get_within, here, Option.getD_some]
          simp only [updateAt, descend, Slot.at?_of_get? here, setAt, container,
            Slot.obtain_of_get? here, held, ih below]

theorem updateAt_of_stops (stops : current.Stops keys before key after found) (value : Value) :
    (updateAt delimiter travelled current keys value).failure =
      some (.notExist key (delimiter.joinKeys (travelled ++ before))) := by
  obtain ⟨split, reached, unread⟩ := stops
  subst split
  induction before generalizing travelled current with
  | nil =>
      cases reached
      cases after with
      | nil => simp [updateAt, has, unread, missing]
      | cons next others => simp [updateAt, descend, Slot.at?_eq, has, unread, missing]
  | cons first rest ih =>
      obtain ⟨child, here, below⟩ := Option.bind_eq_some_iff.mp reached
      obtain ⟨next, others, joined⟩ := List.exists_cons_of_ne_nil
        (List.append_ne_nil_of_right_ne_nil rest (List.cons_ne_nil key after))
      have held : (Slot.within current first).get = child := by
        rw [Slot.get_within, here, Option.getD_some]
      have failed := @ih (travelled ++ [first]) child below
      rw [joined, List.append_assoc] at failed
      rw [List.cons_append, joined, updateAt, descend, Slot.at?_of_get? here]
      dsimp only
      rw [held, putBack_failed _ failed]
      rfl

/-- An update is a write at a path that exists. Where the path does not exist, the root stays
as it was, and an update, a strict reading and a strict deletion fail with one error: it names
the first key that cannot be read and the keys before it, which lead somewhere. -/
theorem writeUpdate_restricts_set {path : PathForm}
    (parsed : path.parse delimiter = .ok (keys.map .key)) (root value : Value) :
    (root.pathExists delimiter path = true →
      root.writeUpdate delimiter path value = root.writeSet delimiter path value) ∧
    (root.pathExists delimiter path = false →
      ∃ before key after found, keys = before ++ key :: after ∧
        root.read delimiter true (.tokens (before.map .key)) = .ok found ∧
        found.get? key = none ∧
        let failure : PathError := .notExist key (delimiter.joinKeys before)
        root.writeUpdate delimiter path value = { root, failure := some failure } ∧
        root.read delimiter true path = .error failure ∧
        root.writeDelete delimiter true path = { root, failure := some failure }) := by
  have updated : root.writeUpdate delimiter path value = updateAt delimiter [] root keys value := by
    simp only [writeUpdate, writing, parsed, keysForWriting_keys]
  rw [updated, writeSet_keys parsed, pathExists, lookup?_keys delimiter root keys parsed]
  refine ⟨fun present => ?_, fun missing => ?_⟩
  · obtain ⟨found, reached⟩ := Option.isSome_iff_exists.mp present
    exact updateAt_eq_setAt reached value
  · have absent : root.at? keys = none :=
      Option.isNone_iff_eq_none.mp (Option.isSome_eq_false_iff.mp missing)
    obtain ⟨before, key, after, found, stops⟩ := exists_stops absent
    have nonempty : keys ≠ [] := by
      rw [stops.split]
      exact List.append_ne_nil_of_right_ne_nil before (List.cons_ne_nil key after)
    have unread := resolve_of_stops delimiter root keys stops
    have reached : root.read delimiter true (.tokens (before.map .key)) = .ok found :=
      (read_strict_keys_iff delimiter root before rfl).mpr stops.reached
    refine ⟨before, key, after, found, stops.split, reached, stops.unread, ?_, ?_, ?_⟩
    · have failed : (updateAt delimiter [] root keys value).failure =
          some (.notExist key (delimiter.joinKeys before)) := updateAt_of_stops stops value
      have unchanged := updateAt_atomic [] root keys value _ failed
      rw [Written.mk.injEq]
      exact ⟨unchanged, failed⟩
    · exact read_of_stops delimiter root keys parsed stops
    · simp only [writeDelete, writing, parsed, keysForWriting_keys, unread,
        List.isEmpty_eq_false_iff.mpr nonempty, Bool.false_eq_true, if_false]

end

/-- A field without a setter refuses an update as it refuses a write; a path that ends in the
list below it stops everything at the missing position. -/
theorem writeUpdate_restricts_set_in_record :
    let shape : Shape :=
      { name := "Box"
        fields := [("items", { visibility := .hidden, getter := some ⟨"items", .stored⟩ })] }
    let root : Value := .map [("box", .record (some shape) [("items", .list [.bool true])])]
    let refusal : PathError := .notWritable "items" "box" (.notWritable "items" "Box" .hiddenField)
    let failure : PathError := .notExist "3" "box.items"
    root.pathExists .dot (.text "box.items.0") = true ∧
      root.writeUpdate .dot (.text "box.items.0") .null = { root, failure := some refusal } ∧
      root.writeSet .dot (.text "box.items.0") .null = { root, failure := some refusal } ∧
      root.pathExists .dot (.text "box.items.3.x") = false ∧
      root.writeUpdate .dot (.text "box.items.3.x") .null = { root, failure := some failure } ∧
      root.read .dot true (.text "box.items.3.x") = .error failure ∧
      root.writeDelete .dot true (.text "box.items.3.x") = { root, failure := some failure } := by
  intro shape root refusal failure
  have present : root.pathExists .dot (.text "box.items.0") = true := by
    rw [pathExists, lookup?_keys .dot root ["box", "items", "0"] rfl]
    rfl
  have missing : root.pathExists .dot (.text "box.items.3.x") = false := by
    rw [pathExists, lookup?_keys .dot root ["box", "items", "3", "x"] rfl]
    rfl
  have refused : root.writeSet .dot (.text "box.items.0") .null = { root, failure := some refusal } :=
    rfl
  have same := (@writeUpdate_restricts_set _ .dot ["box", "items", "0"] _ rfl root .null).1 present
  obtain ⟨before, key, after, found, -, -, -, updated, unread, deleted⟩ :=
    (@writeUpdate_restricts_set _ .dot ["box", "items", "3", "x"] _ rfl root .null).2 missing
  have stopped : (root.writeUpdate .dot (.text "box.items.3.x") .null).failure = some failure := rfl
  have named : PathError.notExist key (Delimiter.dot.joinKeys before) = failure :=
    Option.some.inj ((congrArg Written.failure updated).symm.trans stopped)
  rw [named] at updated unread deleted
  exact ⟨present, same.trans refused, refused, missing, updated, unread, deleted⟩

end Value

end Reshape
