import Reshape.Proofs.Write.Set
/-!
Writes that fail. Where an update, an append or a deletion fails anywhere on its way, the
root stays as it was: a list or a map gets back what stood at the key, and a record below
which something failed is not written to, whatever its accessors are.
-/

namespace Reshape

/-- If the write failed, it left what was there before. -/
def Written.Atomic (written : Written) (before : Value) : Prop :=
  ∀ failure, written.failure = some failure → written.root = before

theorem Written.ofResult_atomic (before : Value) (result : Except PathError Value) :
    (Written.ofResult before result).Atomic before := by
  intro failure failed
  cases result with
  | ok root => contradiction
  | error reason => rfl

theorem Slot.at?_eq_some [Record.Accessors] {container : Value} {key : String} {slot : Slot}
    (found : Slot.at? container key = some slot) :
    (∃ child, container.inPlace ∧ container.get? key = some child ∧
      slot = .entry container key) ∨
    (∃ record : Record, container = record.toValue ∧ slot = .property record key) := by
  unfold Slot.at? at found
  split at found
  · rename_i present
    obtain ⟨child, here⟩ := Option.isSome_iff_exists.mp present
    cases container with
    | record shape fields =>
        cases found
        exact .inr ⟨_, rfl, rfl⟩
    | null | bool | number | string | list | map =>
        cases found
        exact .inl ⟨child, rfl, here, rfl⟩
  · contradiction

namespace Value

variable {delimiter : Delimiter}

theorem missing_atomic (travelled : List String) (key : String) (root : Value) :
    (missing delimiter travelled key root).Atomic root := by
  intro failure failed
  rfl

theorem pushAt_atomic (travelled : List String) (target item : Value) :
    (pushAt delimiter travelled target item).Atomic target := by
  intro failure failed
  unfold pushAt at failed ⊢
  split
  · rename_i absent
    simp [absent] at failed
  · rename_i present
    rw [if_neg present] at failed
    split
    · rename_i accessible
      rw [if_pos accessible] at failed
      exact Written.ofResult_atomic _ _ failure failed
    · rfl

section

variable [Record.Accessors]

theorem putBack_atomic {current : Value} {key : String} {slot : Slot} {child : Written}
    (found : Slot.at? current key = some slot) (kept : child.Atomic slot.get)
    (travelled : List String) : (putBack delimiter travelled key slot child).Atomic current := by
  obtain ⟨root, failure⟩ := child
  obtain ⟨value, place, here, rfl⟩ | ⟨record, rfl, rfl⟩ := Slot.at?_eq_some found
  · cases failure with
    | none => exact Written.ofResult_atomic _ _
    | some reason =>
        intro failure failed
        have held : (Slot.entry current key).get = value := by rw [Slot.get, here]; rfl
        have same : root = value := (kept reason rfl).trans held
        exact same ▸ (put_of_get? place here).2
  · cases failure with
    | none => exact Written.ofResult_atomic _ _
    | some reason =>
        intro failure failed
        rfl

theorem descend_atomic {write : Value → Written} (below : ∀ child, (write child).Atomic child)
    (travelled : List String) (current : Value) (key : String) :
    (descend delimiter travelled current key write).Atomic current := by
  unfold descend
  split
  · rename_i slot found
    exact putBack_atomic found (below slot.get) travelled
  · exact missing_atomic travelled key current

theorem updateAt_atomic (travelled : List String) (current : Value) (keys : List String)
    (value : Value) : (updateAt delimiter travelled current keys value).Atomic current := by
  induction keys generalizing travelled current with
  | nil => intro failure failed; contradiction
  | cons key rest ih =>
      cases rest with
      | nil =>
          rw [updateAt]
          split
          · exact Written.ofResult_atomic _ _
          · exact missing_atomic travelled key current
      | cons next others => exact descend_atomic (fun child => ih _ child) travelled current key

theorem appendAt_atomic (travelled : List String) (current : Value) (keys : List String)
    (item : Value) : (appendAt delimiter travelled current keys item).Atomic current := by
  induction keys generalizing travelled current with
  | nil => exact pushAt_atomic travelled current item
  | cons key rest ih =>
      cases rest with
      | nil =>
          rw [appendAt]
          split
          · exact descend_atomic (fun target => pushAt_atomic _ target item) travelled current key
          · split
            · exact Written.ofResult_atomic _ _
            · exact missing_atomic travelled key current
      | cons next others => exact descend_atomic (fun child => ih _ child) travelled current key

theorem deleteAt_atomic (travelled : List String) (current : Value) (keys : List String) :
    (deleteAt delimiter travelled current keys).Atomic current := by
  induction keys generalizing travelled current with
  | nil => intro failure failed; contradiction
  | cons key rest ih =>
      cases rest with
      | nil => exact Written.ofResult_atomic _ _
      | cons next others => exact descend_atomic (fun child => ih _ child) travelled current key

theorem writing_atomic {root : Value} {write : List Token → List String → Written}
    (atomic : ∀ tokens keys, (write tokens keys).Atomic root) (path : PathForm) :
    (writing delimiter root path write).Atomic root := by
  unfold writing
  split
  · intro failure failed; rfl
  · split
    · intro failure failed; rfl
    · exact atomic _ _

theorem writeDelete_of_resolve {root found : Value} {strict : Bool} {path : PathForm}
    {keys : List String} (parsed : path.parse delimiter = .ok (keys.map .key))
    (nonempty : keys ≠ [])
    (resolved : root.resolve delimiter strict (keys.map .key) = .ok (some found)) :
    root.writeDelete delimiter strict path = deleteAt delimiter [] root keys := by
  simp only [writeDelete, writing, parsed, keysForWriting_keys, resolved,
    List.isEmpty_eq_false_iff.mpr nonempty, Bool.false_eq_true, if_false]

theorem writeDelete_atomic (root : Value) (strict : Bool) (path : PathForm) :
    (root.writeDelete delimiter strict path).Atomic root := by
  apply writing_atomic
  intro tokens keys
  split
  · intro failure failed; rfl
  · split
    · intro failure failed; rfl
    · intro failure failed; rfl
    · exact deleteAt_atomic [] root keys

/-- An update, an append and a deletion that fail leave the whole root as it was, down to
the fields that records do not show. -/
theorem failed_write_unchanged (delimiter : Delimiter) (root : Value) (path : PathForm)
    (failure : PathError) :
    (∀ value, (root.writeUpdate delimiter path value).failure = some failure →
      (root.writeUpdate delimiter path value).root = root) ∧
    (∀ item, (root.writeAppend delimiter path item).failure = some failure →
      (root.writeAppend delimiter path item).root = root) ∧
    (∀ strict, (root.writeDelete delimiter strict path).failure = some failure →
      (root.writeDelete delimiter strict path).root = root) := by
  refine ⟨?_, ?_, ?_⟩
  · intro value
    exact writing_atomic (fun _ keys => updateAt_atomic [] root keys value) path failure
  · intro item
    exact writing_atomic (fun _ keys => appendAt_atomic [] root keys item) path failure
  · intro strict
    exact writeDelete_atomic root strict path failure

end

/-- The getter answers with all that its record stores. The list of that has changed before the
field turns out to have no setter. -/
theorem failed_write_unchanged_unwritable :
    let gathering : Record.Accessors :=
      { Record.Accessors.standard with
        answer := fun _ record => .list (record.fields.map (·.2)) }
    let shape : Shape :=
      { name := "Box"
        fields := [("items", { visibility := .hidden, getter := some ⟨"items", .custom "all"⟩ })] }
    let box : Record := ⟨some shape, [("first", .bool true)]⟩
    let root : Value := .map [("box", box.toValue)]
    let failure : PathError := .notWritable "items" "box" (.notWritable "items" "Box" .hiddenField)
    let update := root.writeUpdate .dot (.text "box.items.0") .null
    let append := root.writeAppend .dot (.text "box.items") .null
    let delete := root.writeDelete .dot true (.text "box.items.0")
    box.getBy gathering "items" = some (.list [.bool true]) ∧
      (update.failure = some failure ∧ update.root = root) ∧
      (append.failure = some failure ∧ append.root = root) ∧
      (delete.failure = some failure ∧ delete.root = root) := by
  intro gathering shape box root failure update append delete
  have updated : update.failure = some failure := rfl
  have appended : append.failure = some failure := rfl
  have deleted : delete.failure = some failure := by
    have found : root.resolve .dot true [.key "box", .key "items", .key "0"] =
        .ok (some (.bool true)) := (resolve_eq_ok_iff ..).mpr rfl
    have entered : delete = deleteAt .dot [] root ["box", "items", "0"] :=
      writeDelete_of_resolve rfl (by simp) found
    rw [entered]
    rfl
  have unchanged := failed_write_unchanged .dot root
  exact ⟨rfl, ⟨updated, (unchanged _ failure).1 .null updated⟩,
    ⟨appended, (unchanged _ failure).2.1 .null appended⟩,
    ⟨deleted, (unchanged _ failure).2.2 true deleted⟩⟩

end Value

end Reshape
