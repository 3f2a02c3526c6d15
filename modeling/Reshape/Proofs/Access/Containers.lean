import Reshape.Access.Container
import Reshape.Proofs.Path.Index

namespace Reshape

namespace Value

def inPlace : Value → Bool
  | .record _ _ => false
  | _ => true

/-- Whether a container that is changed where it is takes a value under a key. -/
def accepts (container : Value) (key : String) : Bool :=
  match container with
  | .list items => (index? key).any (· ≤ items.length)
  | .map _ => true
  | _ => false

/-- The items of a list after a write at an index up to its length. -/
def itemsAfter (items : List Value) (index : Nat) (value : Value) : List Value :=
  if index < items.length then items.set index value else items ++ [value]

section Items

variable {items : List Value} {index : Nat} {value : Value}

theorem itemsAfter_length (bound : index ≤ items.length) (value : Value) :
    items.length ≤ (itemsAfter items index value).length ∧
      index < (itemsAfter items index value).length := by
  unfold itemsAfter
  split <;> simp <;> omega

theorem itemsAfter_getElem? (bound : index ≤ items.length) (other : Nat) :
    (itemsAfter items index value)[other]? =
      if index = other then some value else items[other]? := by
  unfold itemsAfter
  by_cases inside : index < items.length
  · rw [if_pos inside, List.getElem?_set]
    by_cases same : index = other
    · simp [← same, inside]
    · simp [same]
  · have last : index = items.length := by omega
    subst last
    rw [if_neg inside]
    by_cases same : items.length = other
    · simp [← same]
    · rw [if_neg same]
      by_cases before : other < items.length
      · exact List.getElem?_append_left before
      · rw [List.getElem?_eq_none (by simp; omega), List.getElem?_eq_none (by omega)]

theorem itemsAfter_same (found : items[index]? = some value) :
    itemsAfter items index value = items := by
  obtain ⟨inside, same⟩ := List.getElem?_eq_some_iff.mp found
  rw [itemsAfter, if_pos inside, ← same, List.set_getElem_self]

theorem itemsAfter_itemsAfter (bound : index ≤ items.length) (first second : Value) :
    itemsAfter (itemsAfter items index first) index second = itemsAfter items index second := by
  have grown := (itemsAfter_length bound first).2
  apply List.ext_getElem?
  intro other
  rw [itemsAfter_getElem? (Nat.le_of_lt grown), itemsAfter_getElem? bound,
    itemsAfter_getElem? bound]
  split <;> rfl

end Items

variable {container : Value} {key : String}

theorem accepts_list {items : List Value} (accepted : (list items).accepts key) :
    ∃ index, index? key = some index ∧ index ≤ items.length := by
  simpa [accepts, Option.any_eq_true] using accepted

theorem inPlace_of_accepts (accepted : container.accepts key) : container.inPlace := by
  cases container with
  | record shape fields => simp [accepts] at accepted
  | null | bool | number | string | list | map => rfl

theorem setItem_of_accepts {items : List Value} {index : Nat} (found : index? key = some index)
    (bound : index ≤ items.length) (value : Value) :
    setItem items key value = .ok (itemsAfter items index value) := by
  unfold setItem itemsAfter
  rw [found]
  dsimp only
  split
  · rfl
  · rw [if_pos (by omega)]

variable [Record.Accessors]

/-- A container after a write, as it was if it refuses the key. -/
def put (container : Value) (key : String) (value : Value) : Value :=
  (container.set key value).toOption.getD container

theorem put_list {items : List Value} {index : Nat} (found : index? key = some index)
    (bound : index ≤ items.length) (value : Value) :
    (list items).put key value = .list (itemsAfter items index value) := by
  rw [put, set, setItem_of_accepts found bound]
  rfl

theorem put_map {entries : List (String × Value)} (value : Value) :
    (map entries).put key value = .map (Entries.insert key value entries) := rfl

theorem set_of_accepts (accepted : container.accepts key) (value : Value) :
    container.set key value = .ok (container.put key value) := by
  cases container with
  | list items =>
      obtain ⟨index, found, bound⟩ := accepts_list accepted
      rw [put_list found bound, set, setItem_of_accepts found bound]
      rfl
  | map entries => rfl
  | null | bool | number | string | record => simp [accepts] at accepted

theorem set_of_refuses (place : container.inPlace) (refused : container.accepts key = false) :
    ∃ failure, ∀ value, container.set key value = .error failure := by
  cases container with
  | list items =>
      cases found : index? key with
      | none => exact ⟨_, fun value => by simp only [set, setItem, found]; rfl⟩
      | some index =>
          have outside : ¬ index < items.length ∧ ¬ index = items.length := by
            simp only [accepts, found, Option.any_some, decide_eq_false_iff_not] at refused
            omega
          exact ⟨_, fun value => by
            simp only [set, setItem, found, if_neg outside.1, if_neg outside.2]; rfl⟩
  | map entries => simp [accepts] at refused
  | record shape fields => simp [inPlace] at place
  | null | bool | number | string => exact ⟨_, fun value => rfl⟩

theorem accepts_put (accepted : container.accepts key) (value : Value) :
    (container.put key value).accepts key := by
  cases container with
  | list items =>
      obtain ⟨index, found, bound⟩ := accepts_list accepted
      have grown := (itemsAfter_length bound value).2
      rw [put_list found bound]
      simp [accepts, found, Nat.le_of_lt grown]
  | map entries => rfl
  | null | bool | number | string | record => simp [accepts] at accepted

theorem get?_put (accepted : container.accepts key) (value : Value) :
    (container.put key value).get? key = some value := by
  cases container with
  | list items =>
      obtain ⟨index, found, bound⟩ := accepts_list accepted
      rw [put_list found bound, get?, found, Option.bind_some, itemsAfter_getElem? bound,
        if_pos rfl]
  | map entries => rw [put_map, get?, Entries.get?_insert, if_pos rfl]
  | null | bool | number | string | record => simp [accepts] at accepted

theorem put_put (accepted : container.accepts key) (first second : Value) :
    (container.put key first).put key second = container.put key second := by
  cases container with
  | list items =>
      obtain ⟨index, found, bound⟩ := accepts_list accepted
      have grown := (itemsAfter_length bound first).2
      rw [put_list found bound, put_list found (Nat.le_of_lt grown), put_list found bound,
        itemsAfter_itemsAfter bound]
  | map entries => rw [put_map, put_map, put_map, Entries.insert_insert]
  | null | bool | number | string | record => simp [accepts] at accepted

theorem put_of_get? (place : container.inPlace) {value : Value}
    (found : container.get? key = some value) :
    container.accepts key ∧ container.put key value = container := by
  cases container with
  | list items =>
      obtain ⟨index, spelled, item⟩ := Option.bind_eq_some_iff.mp found
      have inside := (List.getElem?_eq_some_iff.mp item).1
      have bound := Nat.le_of_lt inside
      exact ⟨by simp [accepts, spelled, bound], by rw [put_list spelled bound, itemsAfter_same item]⟩
  | map entries => exact ⟨rfl, by rw [put_map, Entries.insert_of_get? found]⟩
  | record shape fields => simp [inPlace] at place
  | null | bool | number | string => simp [get?] at found

/-- Two keys name one place of a container. An index of a list can be spelled in many ways. -/
def SamePlace (container : Value) (key other : String) : Prop :=
  match container with
  | .list _ => index? key = index? other
  | _ => key = other

theorem get?_of_samePlace {other : String} (same : container.SamePlace key other) :
    container.get? key = container.get? other := by
  cases container with
  | list items => rw [get?, get?, show index? key = index? other from same]
  | null | bool | number | string | map | record =>
      cases same
      rfl

theorem get?_put_samePlace {other : String} (accepted : container.accepts key)
    (same : container.SamePlace key other) (value : Value) :
    (container.put key value).get? other = some value := by
  rw [← get?_put accepted value]
  cases container with
  | list items =>
      obtain ⟨index, found, bound⟩ := accepts_list accepted
      rw [put_list found bound, get?, get?, show index? key = index? other from same]
  | null | bool | number | string | map | record =>
      cases same
      rfl

theorem get?_put_apart {other : String} (accepted : container.accepts key)
    (apart : ¬ container.SamePlace key other) (value : Value) :
    (container.put key value).get? other = container.get? other := by
  cases container with
  | list items =>
      obtain ⟨index, found, bound⟩ := accepts_list accepted
      rw [put_list found bound, get?, get?]
      cases spelled : index? other with
      | none => rfl
      | some position =>
          have different : index ≠ position := by
            intro same
            exact apart (by rw [SamePlace, found, spelled, same])
          rw [Option.bind_some, Option.bind_some, itemsAfter_getElem? bound, if_neg different]
  | map entries =>
      have different : key ≠ other := apart
      rw [put_map, get?, Entries.get?_insert, if_neg different]
      rfl
  | null | bool | number | string | record => simp [accepts] at accepted

/-- Two keys without a sign never share a place, so a write at one of them is not seen
at the other, even where it makes a list longer. -/
theorem get?_put_other {other : String} (accepted : container.accepts key)
    (different : key ≠ other)
    (keyUnsigned : key.toList.head? ≠ some '+') (otherUnsigned : other.toList.head? ≠ some '+')
    (value : Value) : (container.put key value).get? other = container.get? other := by
  apply get?_put_apart accepted
  intro same
  cases container with
  | list items =>
      obtain ⟨index, found, _⟩ := accepts_list accepted
      have spelled : index? other = some index :=
        (show index? key = index? other from same).symm.trans found
      exact different (index?_injective found spelled keyUnsigned otherUnsigned)
  | null | bool | number | string | map | record => exact different same

end Value

end Reshape
