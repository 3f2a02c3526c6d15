import Reshape.Proofs.Access.Dynamic
import Reshape.Proofs.Read.Keys
import Reshape.Proofs.Write.Set
/-!
Dynamic records and maps along whole paths. Reading and writing a value by path comes to
reading and writing it with its records taken as maps: where the one changes a copy and
writes it back, the other changes what is there, and they fail with the same errors.
-/

namespace Reshape

open Value

/-- A write, and the write with records taken as maps: both fail with the same error, or
what they leave corresponds. A failure may leave more changed where maps stand. -/
def Written.Mirrors (first second : Written) : Prop :=
  second.failure = first.failure ∧ (first.failure = none → second.root = first.root.toMaps)

theorem Written.failed_mirrors {first second : Value} {failure : PathError} :
    Mirrors { root := first, failure := some failure }
      { root := second, failure := some failure } :=
  ⟨rfl, fun succeeded => nomatch succeeded⟩

theorem Written.ofResult_mirrors (first second : Value) {result : Except PathError Value} :
    Mirrors (.ofResult first result) (.ofResult second (result.map toMaps)) := by
  cases result with
  | error failure => exact failed_mirrors
  | ok root => exact ⟨rfl, fun _ => rfl⟩

theorem Slot.get?_of_at? [Record.Accessors] {container : Value} {key : String} {slot : Slot}
    (found : Slot.at? container key = some slot) : container.get? key = some slot.get := by
  unfold Slot.at? at found
  split at found
  · rename_i present
    obtain ⟨child, here⟩ := Option.isSome_iff_exists.mp present
    cases container with
    | record shape fields =>
        cases found
        rw [Slot.get, here]
        change Record.get? _ key = some child at here
        rw [here, Option.getD_some]
    | null | bool | number | string | list | map =>
        cases found
        rw [Slot.get, here, Option.getD_some]
  · contradiction

namespace Value

theorem forall₂_toMaps_iff {lefts rights : List Value} :
    List.Forall₂ (fun left right => left.Dynamic ∧ right = left.toMaps) lefts rights ↔
      (∀ item ∈ lefts, item.Dynamic) ∧ rights = lefts.map toMaps := by
  rw [List.forall₂_and_left, eq_comm, ← List.forall₂_eq_eq_eq, List.forall₂_map_left_iff]
  simp only [eq_comm]

theorem simulation_toMaps [Record.Accessors] :
    Simulation fun left right => left.Dynamic ∧ right = left.toMaps where
  child := by
    rintro left _ ⟨dynamic, rfl⟩ key
    rw [get?_toMaps dynamic.untyped]
    cases found : left.get? key with
    | none => exact .none
    | some child => exact .some ⟨dynamic.get? found, rfl⟩
  members := by
    rintro left _ ⟨dynamic, rfl⟩
    have ofEntries : ∀ entries : List (String × Value), EntriesShapedBy (· = none) entries →
        List.Forall₂ (fun left right => left.Dynamic ∧ right = left.toMaps) (entries.map (·.2))
          ((Entries.mapValues toMaps entries).map (·.2)) := fun entries shaped =>
      forall₂_toMaps_iff.mpr
        ⟨List.forall_mem_map.mpr (entriesShapedBy_iff.mp shaped),
          by simp [Entries.mapValues, Function.comp_def]⟩
    cases left with
    | list items =>
        rw [toMaps_list]
        exact .some (forall₂_toMaps_iff.mpr ⟨itemsShapedBy_iff.mp dynamic, rfl⟩)
    | map entries =>
        rw [toMaps_map]
        exact .some (ofEntries entries dynamic)
    | record shape fields =>
        cases dynamic.1
        rw [toMaps_dynamic]
        exact .some (ofEntries fields dynamic.2)
    | null | bool | number | string => exact .none
  typeName := by
    rintro left _ ⟨dynamic, rfl⟩ inner
    cases left with
    | list | map | record => contradiction
    | null | bool | number | string => rfl
  list := by
    intro lefts rights each
    obtain ⟨dynamic, rfl⟩ := forall₂_toMaps_iff.mp each
    exact ⟨itemsShapedBy_iff.mpr dynamic, (toMaps_list lefts).symm⟩

variable {delimiter : Delimiter} {current : Value} {key : String}

theorem blame_toMaps (travelled : List String) (key : String) (outcome : Except AccessError Value) :
    blame delimiter travelled key (outcome.map toMaps) =
      (blame delimiter travelled key outcome).map toMaps := by
  cases outcome <;> rfl

theorem containerFor_toMaps (key : String) (current : Value) :
    containerFor key current.toMaps = (containerFor key current).toMaps := by
  unfold containerFor
  rw [isNull_toMaps]
  split
  · exact (toMaps_emptyFor key).symm
  · rfl

theorem Dynamic.containerFor (dynamic : current.Dynamic) (key : String) :
    (containerFor key current).Dynamic := by
  unfold Value.containerFor
  split
  · exact shapedBy_emptyFor key
  · exact dynamic

theorem pushAt_mirrors {target : Value} (unrecorded : target.Unrecorded) (travelled : List String)
    (item : Value) :
    Written.Mirrors (pushAt delimiter travelled target item)
      (pushAt delimiter travelled target.toMaps item.toMaps) := by
  have pushed := push_toMaps unrecorded item
  unfold pushAt
  cases target with
  | null => exact ⟨rfl, fun _ => (toMaps_list [item]).symm⟩
  | bool | number | string => exact Written.failed_mirrors
  | list | map =>
      rw [pushed]
      simp only [toMaps, isNull, isArrayAccessible, blame_toMaps, Bool.false_eq_true, if_false,
        if_true]
      exact Written.ofResult_mirrors _ _
  | record shape fields => exact absurd rfl (unrecorded shape fields)

section

variable [Record.Accessors]

theorem putBack_mirrors {first second : Slot} {child other : Written}
    (slots : Slot.Mirrors first second) (children : Written.Mirrors child other)
    (travelled : List String) :
    Written.Mirrors (putBack delimiter travelled key first child)
      (putBack delimiter travelled key second other) := by
  cases ended : child.failure with
  | some failure =>
      have failed := putBack_failed first ended delimiter travelled key
      have fails := putBack_failed second (children.1.trans ended) delimiter travelled key
      exact ⟨fails.trans failed.symm, fun succeeded => nomatch failed.symm.trans succeeded⟩
  | none =>
      rw [putBack_succeeded first ended, putBack_succeeded second (children.1.trans ended),
        children.2 ended, slots.set, blame_toMaps]
      exact Written.ofResult_mirrors _ _

theorem setAt_mirrors (dynamic : current.Dynamic) (travelled keys : List String) (value : Value) :
    Written.Mirrors (setAt delimiter travelled current keys value)
      (setAt delimiter travelled current.toMaps keys value.toMaps) := by
  induction keys generalizing travelled current with
  | nil => exact ⟨rfl, fun _ => rfl⟩
  | cons key rest ih =>
      have containerDynamic := dynamic.containerFor key
      cases rest with
      | nil =>
          rw [setAt, setAt, containerFor_toMaps, set_toMaps containerDynamic.untyped, blame_toMaps]
          exact Written.ofResult_mirrors _ _
      | cons next others =>
          have slots := Slot.obtain_toMaps containerDynamic key (shapedBy_emptyFor next)
          rw [toMaps_emptyFor] at slots
          rw [setAt, setAt, containerFor_toMaps]
          revert slots
          cases Slot.obtain (containerFor key current) key (emptyFor next) <;>
            cases Slot.obtain (containerFor key current).toMaps key (emptyFor next)
          · rintro ⟨⟩
            exact Written.failed_mirrors
          · exact False.elim
          · exact False.elim
          · intro slots
            rename_i first second
            have below := ih slots.dynamic (travelled ++ [key])
            rw [← slots.get] at below
            exact putBack_mirrors slots below travelled

theorem descend_mirrors {first second : Value → Written} (dynamic : current.Dynamic)
    (below : ∀ child, current.get? key = some child → child.Dynamic →
      Written.Mirrors (first child) (second child.toMaps)) (travelled : List String) :
    Written.Mirrors (descend delimiter travelled current key first)
      (descend delimiter travelled current.toMaps key second) := by
  have slots := Slot.at?_toMaps dynamic key
  unfold descend
  cases found : Slot.at? current key <;> cases other : Slot.at? current.toMaps key <;>
    rw [found, other] at slots
  · exact Written.failed_mirrors
  · exact absurd slots (by simp)
  · exact absurd slots (by simp)
  · rename_i slot mirror
    have slots : Slot.Mirrors slot mirror := by simpa using slots
    have under := below slot.get (Slot.get?_of_at? found) slots.dynamic
    rw [← slots.get] at under
    exact putBack_mirrors slots under travelled

theorem updateAt_mirrors (dynamic : current.Dynamic) (travelled keys : List String)
    (value : Value) :
    Written.Mirrors (updateAt delimiter travelled current keys value)
      (updateAt delimiter travelled current.toMaps keys value.toMaps) := by
  induction keys generalizing travelled current with
  | nil => exact ⟨rfl, fun _ => rfl⟩
  | cons key rest ih =>
      cases rest with
      | nil =>
          rw [updateAt, updateAt, has_toMaps dynamic.untyped, set_toMaps dynamic.untyped,
            blame_toMaps]
          split
          · exact Written.ofResult_mirrors _ _
          · exact Written.failed_mirrors
      | cons next others =>
          exact descend_mirrors dynamic (fun child _ below => ih below _) travelled

theorem deleteAt_mirrors (dynamic : current.Dynamic) (travelled keys : List String) :
    Written.Mirrors (deleteAt delimiter travelled current keys)
      (deleteAt delimiter travelled current.toMaps keys) := by
  induction keys generalizing travelled current with
  | nil => exact ⟨rfl, fun _ => rfl⟩
  | cons key rest ih =>
      cases rest with
      | nil =>
          rw [deleteAt, deleteAt, delete_toMaps dynamic.untyped, blame_toMaps]
          exact Written.ofResult_mirrors _ _
      | cons next others =>
          exact descend_mirrors dynamic (fun child _ below => ih below _) travelled

theorem appendAt_mirrors {keys : List String} (dynamic : current.Dynamic)
    (unrecorded : ∀ target, current.at? keys = some target → target.Unrecorded)
    (travelled : List String) (item : Value) :
    Written.Mirrors (appendAt delimiter travelled current keys item)
      (appendAt delimiter travelled current.toMaps keys item.toMaps) := by
  induction keys generalizing travelled current with
  | nil => exact pushAt_mirrors (unrecorded current rfl) travelled item
  | cons key rest ih =>
      cases rest with
      | nil =>
          have single : toMaps (.list [item]) = .list [item.toMaps] := by rw [toMaps_list]; rfl
          rw [appendAt, appendAt, has_toMaps dynamic.untyped, isContainer_toMaps, ← single,
            set_toMaps dynamic.untyped, blame_toMaps]
          split
          · apply descend_mirrors dynamic
            intro target found _
            exact pushAt_mirrors (unrecorded target (by rw [at?, found]; rfl)) _ item
          · split
            · exact Written.ofResult_mirrors _ _
            · exact Written.failed_mirrors
      | cons next others =>
          apply descend_mirrors dynamic
          intro child found below
          apply ih below
          intro target reached
          exact unrecorded target (by rw [at?, found]; exact reached)

theorem writing_mirrors {root : Value} {path : PathForm}
    {first second : List Token → List String → Written}
    (same : ∀ keys, path.parse delimiter = .ok (keys.map .key) →
      Written.Mirrors (first (keys.map .key) keys) (second (keys.map .key) keys)) :
    Written.Mirrors (writing delimiter root path first)
      (writing delimiter root.toMaps path second) := by
  unfold writing
  cases parsed : path.parse delimiter with
  | error failure => exact Written.failed_mirrors
  | ok tokens =>
      dsimp only
      cases literal : keysForWriting delimiter tokens with
      | error failure => exact Written.failed_mirrors
      | ok keys =>
          have names := keysForWriting_eq_ok literal
          subst names
          exact same keys parsed

theorem writeDelete_mirrors {root : Value} (dynamic : root.Dynamic) (strict : Bool)
    (path : PathForm) :
    Written.Mirrors (root.writeDelete delimiter strict path)
      (root.toMaps.writeDelete delimiter strict path) := by
  apply writing_mirrors
  intro keys parsed
  split
  · exact Written.failed_mirrors
  · have found : Alike (Option.Rel _) (root.resolve delimiter strict (keys.map .key))
      (root.toMaps.resolve delimiter strict (keys.map .key)) :=
      simulation_toMaps.resolve _ _ _ _ ⟨dynamic, rfl⟩
    revert found
    cases root.resolve delimiter strict (keys.map .key) <;>
      cases root.toMaps.resolve delimiter strict (keys.map .key)
    · rintro ⟨⟩
      exact Written.failed_mirrors
    · exact False.elim
    · exact False.elim
    · rintro (_ | _)
      · exact deleteAt_mirrors dynamic [] keys
      · exact ⟨rfl, fun _ => rfl⟩

/-- Whatever is read and written by path in a value whose records are all dynamic is read
and written in the same way once these records are taken as maps; a record alone refuses
an item that the map of its fields takes. -/
theorem records_as_maps (delimiter : Delimiter) {root : Value} (dynamic : root.Dynamic)
    (path : PathForm) :
    root.toMaps.checkRoot = root.checkRoot ∧
    (∀ strict, root.toMaps.read delimiter strict path =
      (root.read delimiter strict path).map toMaps) ∧
    root.toMaps.pathExists delimiter path = root.pathExists delimiter path ∧
    root.toMaps.pathIsSet delimiter path = root.pathIsSet delimiter path ∧
    (∀ value, (root.writeSet delimiter path value).Mirrors
      (root.toMaps.writeSet delimiter path value.toMaps)) ∧
    (∀ value, (root.writeUpdate delimiter path value).Mirrors
      (root.toMaps.writeUpdate delimiter path value.toMaps)) ∧
    (∀ strict, (root.writeDelete delimiter strict path).Mirrors
      (root.toMaps.writeDelete delimiter strict path)) ∧
    ((∀ target, root.lookup? delimiter path = some target → target.Unrecorded) →
      ∀ item, (root.writeAppend delimiter path item).Mirrors
        (root.toMaps.writeAppend delimiter path item.toMaps)) := by
  have same : root.Dynamic ∧ root.toMaps = root.toMaps := ⟨dynamic, rfl⟩
  refine ⟨(simulation_toMaps.checkRoot_eq same).symm, ?read,
    (simulation_toMaps.pathExists_eq same path).symm,
    (simulation_toMaps.pathIsSet_eq same path).symm, ?set, ?update,
    fun strict => writeDelete_mirrors dynamic strict path, ?append⟩
  case read =>
    intro strict
    exact (simulation_toMaps.read ⟨trivial, rfl⟩ same strict path).eq_map fun _ _ held => held.2
  case set =>
    intro value
    exact writing_mirrors fun keys _ => setAt_mirrors dynamic [] keys value
  case update =>
    intro value
    exact writing_mirrors fun keys _ => updateAt_mirrors dynamic [] keys value
  case append =>
    intro unrecorded item
    apply writing_mirrors
    intro keys parsed
    rw [lookup?_keys delimiter root keys parsed] at unrecorded
    exact appendAt_mirrors dynamic unrecorded [] item

end

/-- A record in a list in a record: null below it becomes a list with a further record. -/
theorem records_as_maps_nested :
    let root : Value := .record none [("a", .list [.record none [("k", .null)]])]
    let maps : Value := .map [("a", .list [.map [("k", .null)]])]
    let path : PathForm := .text "a.0.k"
    let appended := root.writeAppend .dot path (.record none [])
    root.Dynamic ∧ root.toMaps = maps ∧
      (∀ target, root.lookup? .dot path = some target → target.Unrecorded) ∧
      maps.read .dot true path = (root.read .dot true path).map toMaps ∧
      appended.failure = none ∧
      appended.root =
        .record none [("a", .list [.record none [("k", .list [.record none []])]])] ∧
      (maps.writeAppend .dot path (.map [])).root = appended.root.toMaps := by
  intro root maps path appended
  have dynamic : root.Dynamic := ⟨rfl, ⟨⟨rfl, trivial, trivial⟩, trivial⟩, trivial⟩
  have found : root.lookup? .dot path = some .null := lookup?_keys .dot root ["a", "0", "k"] rfl
  have unrecorded : ∀ target, root.lookup? .dot path = some target → target.Unrecorded := by
    intro target reached shape fields same
    rw [found, same] at reached
    cases reached
  have succeeded : appended.failure = none := by decide
  obtain ⟨_, read, _, _, _, _, _, append⟩ := records_as_maps .dot dynamic path
  exact ⟨dynamic, rfl, unrecorded, read true, succeeded, rfl,
    (append unrecorded (.record none [])).2 succeeded⟩

end Value

end Reshape
