import Reshape.Proofs.Access.RecordFree
import Reshape.Proofs.Attempt
import Reshape.Proofs.Read.Keys
import Reshape.Write

namespace Reshape

variable {delimiter : Delimiter}

theorem keysForWriting_keys (keys : List String) :
    keysForWriting delimiter (keys.map .key) = .ok keys := by
  unfold keysForWriting
  generalize delimiter.join (keys.map .key) = path
  induction keys with
  | nil => rfl
  | cons key rest ih =>
      rw [List.map_cons, List.mapM_cons, ih]
      rfl

theorem keysForWriting_eq_ok {tokens : List Token} {keys : List String}
    (literal : keysForWriting delimiter tokens = .ok keys) : tokens = keys.map .key := by
  unfold keysForWriting at literal
  generalize delimiter.join tokens = path at literal
  induction tokens generalizing keys with
  | nil =>
      cases literal
      rfl
  | cons token rest ih =>
      rw [List.mapM_cons] at literal
      cases token with
      | key name =>
          obtain ⟨first, head, others⟩ := bind_eq_ok_iff.mp literal
          obtain ⟨names, tail, joined⟩ := bind_eq_ok_iff.mp others
          cases head
          cases joined
          rw [ih tail, List.map_cons]
      | wildcard | flatten | cancel => contradiction

namespace Slot

variable {container : Value} {key : String}

variable [Record.Accessors]

theorem obtain_of_accepts (accepted : container.accepts key) (default : Value) :
    obtain container key default =
      .ok (.entry (container.put key ((container.get? key).getD default)) key) := by
  have place : container.inPlace := Value.inPlace_of_accepts accepted
  cases found : container.get? key with
  | some value =>
      have unchanged := (Value.put_of_get? place found).2
      cases container with
      | list | map => simp [obtain, Value.has, found, unchanged]
      | null | bool | number | string | record => simp [Value.accepts] at accepted
  | none =>
      have written := Value.set_of_accepts accepted default
      cases container with
      | list | map => simp [obtain, Value.has, found, written, Except.map]
      | null | bool | number | string | record => simp [Value.accepts] at accepted

theorem obtain_of_refuses (place : container.inPlace) (refused : container.accepts key = false)
    (default : Value) : ∃ failure, obtain container key default = .error failure := by
  have absent : container.get? key = none := by
    cases found : container.get? key with
    | none => rfl
    | some value => simp [(Value.put_of_get? place found).1] at refused
  obtain ⟨failure, refusal⟩ := Value.set_of_refuses place refused
  cases container with
  | list | map => exact ⟨failure, by simp [obtain, Value.has, absent, refusal default, Except.map]⟩
  | record shape fields => simp [Value.inPlace] at place
  | null | bool | number | string => exact ⟨_, rfl⟩

end Slot

namespace Value

theorem recordFree_containerFor {current : Value} (free : current.RecordFree) (key : String) :
    (containerFor key current).RecordFree := by
  unfold containerFor
  split
  · exact recordFree_emptyFor key
  · exact free

variable [Record.Accessors] {travelled rest : List String} {current : Value} {key : String}

theorem writeSet_keys {path : PathForm} {keys : List String}
    (parsed : path.parse delimiter = .ok (keys.map .key)) (root value : Value) :
    root.writeSet delimiter path value = setAt delimiter [] root keys value := by
  simp only [writeSet, writing, parsed, keysForWriting_keys]

/-- The container created for a missing value, shaped for the keys below it. -/
def scaffold : List String → Value
  | [] => .null
  | key :: _ => emptyFor key

def valueUnder (container : Value) (key : String) (rest : List String) : Value :=
  (container.get? key).getD (scaffold rest)

theorem containerFor_of_get? {child : Value} (found : current.get? key = some child) :
    containerFor key current = current := by
  cases current with
  | null => simp [get?] at found
  | bool | number | string | list | map | record => rfl

theorem get?_emptyFor (key other : String) : (emptyFor key).get? other = none := by
  unfold emptyFor
  split
  · cases found : index? other <;> simp [get?, found]
  · rfl

theorem get?_containerFor (current : Value) (key other : String) :
    (containerFor key current).get? other = current.get? other := by
  cases current with
  | null => exact get?_emptyFor key other
  | bool | number | string | list | map | record => rfl

theorem valueUnder_of_get? {child : Value} (found : current.get? key = some child)
    (rest : List String) : valueUnder current key rest = child := by
  rw [valueUnder, found, Option.getD_some]

theorem setAt_scaffold (delimiter : Delimiter) (travelled keys : List String) (value : Value) :
    setAt delimiter travelled (scaffold keys) keys value =
      setAt delimiter travelled .null keys value := by
  cases keys with
  | nil => rfl
  | cons key rest =>
      have container : containerFor key (emptyFor key) = containerFor key .null := by
        unfold containerFor emptyFor
        split <;> rfl
      cases rest with
      | nil => simp only [setAt, scaffold, container]
      | cons next others => simp only [setAt, scaffold, container]

theorem recordFree_valueUnder (free : current.RecordFree) (key : String) (rest : List String) :
    (valueUnder current key rest).RecordFree := by
  cases found : current.get? key with
  | some child =>
      rw [valueUnder_of_get? found]
      exact free.get? found
  | none =>
      rw [valueUnder, found, Option.getD_none]
      cases rest with
      | nil => trivial
      | cons next others => exact recordFree_emptyFor next

theorem setAt_of_refuses_inPlace (place : (containerFor key current).inPlace)
    (refused : (containerFor key current).accepts key = false)
    (delimiter : Delimiter) (travelled rest : List String) :
    ∃ reason, ∀ value, setAt delimiter travelled current (key :: rest) value =
      { root := containerFor key current
        failure := some (.notWritable key (delimiter.joinKeys travelled) reason) } := by
  cases rest with
  | nil =>
      obtain ⟨reason, refusal⟩ := set_of_refuses place refused
      exact ⟨reason, fun value => by simp only [setAt, refusal]; rfl⟩
  | cons next others =>
      obtain ⟨reason, refusal⟩ := Slot.obtain_of_refuses place refused (emptyFor next)
      exact ⟨reason, fun value => by simp only [setAt, refusal]⟩

theorem setAt_of_refuses (free : current.RecordFree)
    (refused : (containerFor key current).accepts key = false)
    (delimiter : Delimiter) (travelled rest : List String) :
    ∃ reason, ∀ value, setAt delimiter travelled current (key :: rest) value =
      { root := containerFor key current
        failure := some (.notWritable key (delimiter.joinKeys travelled) reason) } :=
  setAt_of_refuses_inPlace (recordFree_containerFor free key).inPlace refused delimiter travelled
    rest

theorem putBack_failed (slot : Slot) {child : Written} {failure : PathError}
    (failed : child.failure = some failure) (delimiter : Delimiter) (travelled : List String)
    (key : String) : (putBack delimiter travelled key slot child).failure = some failure := by
  cases slot <;> simp only [putBack, failed]

theorem putBack_succeeded (slot : Slot) {child : Written} (succeeded : child.failure = none)
    (travelled : List String) :
    putBack delimiter travelled key slot child =
      .ofResult slot.container (blame delimiter travelled key (slot.set child.root)) := by
  cases slot <;> simp only [putBack, succeeded]

theorem putBack_entry {container : Value} (accepted : container.accepts key) (placed : Value)
    (child : Written) :
    putBack delimiter travelled key (.entry (container.put key placed) key) child =
      { root := container.put key child.root, failure := child.failure } := by
  have again : (Slot.entry (container.put key placed) key).set child.root =
      .ok (container.put key child.root) := by
    rw [Slot.set, set_of_accepts (accepts_put accepted placed), put_put accepted]
  obtain ⟨root, failure⟩ := child
  cases failure with
  | none => simp only [putBack, again]; rfl
  | some reason => simp only [putBack, again]; rfl

theorem setAt_of_accepts (accepted : (containerFor key current).accepts key) (value : Value) :
    let container := containerFor key current
    let child := setAt delimiter (travelled ++ [key]) (valueUnder container key rest) rest value
    setAt delimiter travelled current (key :: rest) value =
      { root := container.put key child.root, failure := child.failure } := by
  intro container child
  cases rest with
  | nil =>
      have written := set_of_accepts accepted value
      simp only [setAt, written]
      rfl
  | cons next others =>
      let placed := valueUnder container key (next :: others)
      have obtained : Slot.obtain container key (emptyFor next) =
          .ok (.entry (container.put key placed) key) := Slot.obtain_of_accepts accepted _
      have held : (Slot.entry (container.put key placed) key).get = placed := by
        rw [Slot.get, get?_put accepted, Option.getD_some]
      have entered : setAt delimiter travelled current (key :: next :: others) value =
          putBack delimiter travelled key (.entry (container.put key placed) key) child := by
        simp only [setAt, obtained, container, held]
        rfl
      rw [entered, putBack_entry accepted]

theorem accepts_of_setAt (free : current.RecordFree) {value : Value}
    (written : (setAt delimiter travelled current (key :: rest) value).failure = none) :
    (containerFor key current).accepts key := by
  cases accepted : (containerFor key current).accepts key with
  | true => rfl
  | false =>
      obtain ⟨reason, refused⟩ := setAt_of_refuses free accepted delimiter travelled rest
      simp [refused] at written

theorem recordFree_setAt {keys : List String} {value : Value} (free : current.RecordFree)
    (valueFree : value.RecordFree) :
    (setAt delimiter travelled current keys value).root.RecordFree := by
  induction keys generalizing travelled current with
  | nil => exact valueFree
  | cons key rest ih =>
      have containerFree := recordFree_containerFor free key
      cases accepted : (containerFor key current).accepts key with
      | false =>
          obtain ⟨reason, refused⟩ := setAt_of_refuses free accepted delimiter travelled rest
          rw [refused]
          exact containerFree
      | true =>
          rw [setAt_of_accepts accepted]
          exact containerFree.put accepted (ih (recordFree_valueUnder containerFree key rest))

theorem writeSet_of_success {root value : Value} {path : PathForm}
    (written : (root.writeSet delimiter path value).failure = none) :
    ∃ keys, path.parse delimiter = .ok (keys.map .key) ∧
      root.writeSet delimiter path value = setAt delimiter [] root keys value := by
  unfold writeSet writing at written
  cases parsed : path.parse delimiter with
  | error failure => simp [parsed] at written
  | ok tokens =>
      cases literal : keysForWriting delimiter tokens with
      | error failure => simp [parsed, literal] at written
      | ok keys =>
          have same := keysForWriting_eq_ok literal
          subst same
          exact ⟨keys, rfl, writeSet_keys parsed root value⟩

end Value

end Reshape
