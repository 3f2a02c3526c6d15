import Reshape.Access.Slot
import Reshape.Proofs.Path.Index

namespace Reshape

inductive Fault where
  | element (position length : Nat)
  | slice (start stop length : Nat)
  | window (start stop length : Nat)
  | underflow
  | overflow
deriving DecidableEq, Repr

/-- A computation that ends at its first fault. -/
abbrev Guarded (α : Type) := Except Fault α

namespace Guarded

section Lists

variable {α : Type} (items : List α)

def element (position : Nat) : Guarded { item // items[position]? = some item } :=
  if inside : position < items.length then .ok ⟨items[position], List.getElem?_eq_getElem inside⟩
  else .error (.element position items.length)

def slice (start stop : Nat) : Guarded (List α) :=
  if start ≤ stop ∧ stop ≤ items.length then .ok ((items.drop start).take (stop - start))
  else .error (.slice start stop items.length)

def replace (position : Nat) (item : α) : Guarded (List α) :=
  if position < items.length then .ok (items.set position item)
  else .error (.element position items.length)

def remove (position : Nat) : Guarded (List α) :=
  if position < items.length then .ok (items.eraseIdx position)
  else .error (.element position items.length)

end Lists

/-- A stretch of positions that has to lie inside of a list. -/
def window (start stop length : Nat) : Guarded Unit :=
  if start ≤ stop ∧ stop ≤ length then .ok () else .error (.window start stop length)

def countDown : Nat → Guarded Nat
  | 0 => .error .underflow
  | count + 1 => .ok count

def countUp (count : Nat) : Guarded Nat :=
  if count + 1 < UInt64.size then .ok (count + 1) else .error .overflow

variable {α : Type} {items : List α} {item : α} {position start stop length : Nat}

theorem element_eq (found : items[position]? = some item) :
    element items position = .ok ⟨item, found⟩ := by
  obtain ⟨inside, same⟩ := List.getElem?_eq_some_iff.mp found
  subst same
  exact dif_pos inside

theorem slice_eq (lower : start ≤ stop) (upper : stop ≤ items.length) :
    slice items start stop = .ok ((items.drop start).take (stop - start)) :=
  if_pos ⟨lower, upper⟩

theorem window_eq (lower : start ≤ stop) (upper : stop ≤ length) :
    window start stop length = .ok () :=
  if_pos ⟨lower, upper⟩

theorem ok_bind {β : Type} (value : α) (next : α → Guarded β) :
    (Except.ok value : Guarded α) >>= next = next value :=
  rfl

theorem countDown_eq {count : Nat} (some : count ≠ 0) : countDown count = .ok (count - 1) := by
  cases count with
  | zero => contradiction
  | succ count => rfl

end Guarded

namespace Value

def setItemGuarded (items : List Value) (key : String) (value : Value) :
    Guarded (Except AccessError (List Value)) :=
  match index? key with
  | none => .ok (.error (.notWritable key "list" .notAnIndex))
  | some index =>
      if index < items.length then do return .ok (← Guarded.replace items index value)
      else if index = items.length then .ok (.ok (items ++ [value]))
      else .ok (.error (.notWritable key "list" (.pastEnd items.length)))

/-- Only lists are written by position. -/
def setGuarded [Record.Accessors] (container : Value) (key : String) (value : Value) :
    Guarded (Except AccessError Value) :=
  match container with
  | .list items => do return (← setItemGuarded items key value).map .list
  | other => .ok (other.set key value)

def deleteGuarded (container : Value) (key : String) : Guarded (Except AccessError Value) :=
  match container with
  | .list items =>
      match index? key with
      | some index =>
          if index < items.length then do return .ok (.list (← Guarded.remove items index))
          else .ok (.ok (.list items))
      | none => .ok (.ok (.list items))
  | other => .ok (other.delete key)

def nextKeyGuarded (entries : Entries Value) : Guarded String :=
  match (entries.filterMap fun (key, _) => index? key).max? with
  | some largest => do return toString (← Guarded.countUp largest)
  | none => .ok "0"

def pushGuarded (container : Value) (item : Value) : Guarded (Except AccessError Value) :=
  match container with
  | .map entries => do return .ok (.map (Entries.insert (← nextKeyGuarded entries) item entries))
  | other => .ok (other.push item)

/-- A map whose largest index has a number behind it. -/
def Unexhausted (entries : Entries Value) : Prop :=
  ∀ name ∈ Entries.names entries, index? name ≠ some (UInt64.size - 1)

variable {container : Value} {key : String} {value item : Value} {entries : Entries Value}

theorem setItemGuarded_eq (items : List Value) (key : String) (value : Value) :
    setItemGuarded items key value = .ok (setItem items key value) := by
  unfold setItemGuarded setItem
  cases index? key with
  | none => rfl
  | some index =>
      by_cases inside : index < items.length
      · simp only [if_pos inside, Guarded.replace]
        rfl
      · simp only [if_neg inside]
        split <;> rfl

theorem setGuarded_eq [Record.Accessors] (container : Value) (key : String) (value : Value) :
    container.setGuarded key value = .ok (container.set key value) := by
  cases container with
  | list items =>
      rw [setGuarded, setItemGuarded_eq]
      rfl
  | null | bool | number | string | map | record => rfl

theorem deleteGuarded_eq (container : Value) (key : String) :
    container.deleteGuarded key = .ok (container.delete key) := by
  cases container with
  | list items =>
      simp only [deleteGuarded, delete]
      cases index? key with
      | none => rfl
      | some index =>
          by_cases inside : index < items.length
          · simp only [if_pos inside, Guarded.remove]
            rfl
          · simp only [if_neg inside, List.eraseIdx_of_length_le (Nat.le_of_not_lt inside)]
  | null | bool | number | string | map | record => rfl

theorem nextKeyGuarded_eq (unexhausted : Unexhausted entries) :
    nextKeyGuarded entries = .ok (nextKey entries) := by
  unfold nextKeyGuarded nextKey
  cases greatest : (entries.filterMap fun (key, _) => index? key).max? with
  | none => rfl
  | some largest =>
      obtain ⟨⟨name, held⟩, member, found⟩ := List.mem_filterMap.mp (List.max?_mem greatest)
      have small := index?_succ_lt found (unexhausted name (List.mem_map_of_mem member))
      simp only [Guarded.countUp, if_pos small, Nat.mod_eq_of_lt small]
      rfl

theorem pushGuarded_eq
    (unexhausted : ∀ entries, container = .map entries → Unexhausted entries) :
    container.pushGuarded item = .ok (container.push item) := by
  cases container with
  | map entries =>
      rw [pushGuarded, nextKeyGuarded_eq (unexhausted entries rfl)]
      rfl
  | null | bool | number | string | list | record => rfl

end Value

/-- A key that is missing from a list is first written by its position. -/
def Slot.obtainGuarded [Record.Accessors] (container : Value) (key : String) (default : Value) :
    Guarded (Except AccessError Slot) :=
  match container with
  | .list items =>
      if (Value.list items).has key then .ok (.ok (.entry (.list items) key))
      else do return (← (Value.list items).setGuarded key default).map (.entry · key)
  | other => .ok (obtain other key default)

theorem Slot.obtainGuarded_eq [Record.Accessors] (container : Value) (key : String)
    (default : Value) :
    obtainGuarded container key default = .ok (obtain container key default) := by
  cases container with
  | list items =>
      simp only [obtainGuarded, obtain]
      split
      · rfl
      · rw [Value.setGuarded_eq]
        rfl
  | null | bool | number | string | map | record => rfl

end Reshape
