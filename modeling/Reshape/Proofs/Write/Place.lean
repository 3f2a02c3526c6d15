import Reshape.Proofs.Write.Update
/-!
Writes that change one place. Where the keys of a path lead through lists and maps to something
that exists, a write that only acts on what stands there puts another value into its place: all
items and entries beside it stay, in their order.
-/

namespace Reshape.Value

variable {delimiter : Delimiter} {travelled keys before after rest : List String} {key : String}
  {root current child next found old new : Value}

/-- Two values that are the same but in one place, which keys lead to: there the first holds
`old` and the second `new`. -/
inductive Replaced (old new : Value) : List String → Value → Value → Prop
  | here : Replaced old new [] old new
  | item {key : String} {rest : List String} {front back : List Value} {child next : Value}
      (position : index? key = some front.length) (below : Replaced old new rest child next) :
      Replaced old new (key :: rest) (.list (front ++ child :: back)) (.list (front ++ next :: back))
  | entry {key : String} {rest : List String} {front back : List (String × Value)}
      {child next : Value} (first : key ∉ Entries.names front)
      (below : Replaced old new rest child next) :
      Replaced old new (key :: rest) (.map (front ++ (key, child) :: back))
        (.map (front ++ (key, next) :: back))

theorem split_of_getElem? {items : List Value} {index : Nat} (held : items[index]? = some child) :
    ∃ front back, items = front ++ child :: back ∧ front.length = index := by
  obtain ⟨inside, same⟩ := List.getElem?_eq_some_iff.mp held
  refine ⟨items.take index, items.drop (index + 1), ?_, ?_⟩
  · rw [← same, List.getElem_cons_drop inside, List.take_append_drop]
  · rw [List.length_take, Nat.min_eq_left (Nat.le_of_lt inside)]

theorem Replaced.symm (replaced : Replaced old new keys current root) :
    Replaced new old keys root current := by
  induction replaced with
  | here => exact .here
  | item position _ ih => exact .item position ih
  | entry first _ ih => exact .entry first ih

variable [Record.Accessors]

theorem get?_split_list {front back : List Value} (position : index? key = some front.length) :
    (list (front ++ child :: back)).get? key = some child := by
  rw [get?, position, Option.bind_some, List.getElem?_append_right (Nat.le_refl _), Nat.sub_self]
  rfl

theorem put_split_list {front back : List Value} (position : index? key = some front.length)
    (next : Value) : (list (front ++ child :: back)).put key next = .list (front ++ next :: back) := by
  rw [put_list position (by simp), itemsAfter, if_pos (by simp)]
  simp

theorem get?_split_map {front back : List (String × Value)} (first : key ∉ Entries.names front) :
    (map (front ++ (key, child) :: back)).get? key = some child := by
  rw [get?, ← Entries.insert_split first child child, Entries.get?_insert, if_pos rfl]

namespace Replaced

theorem cons_iff : Replaced old new (key :: rest) current root ↔
    ∃ child next, current.inPlace ∧ current.get? key = some child ∧
      Replaced old new rest child next ∧ root = current.put key next := by
  constructor
  · rintro (_ | ⟨position, below⟩ | ⟨first, below⟩)
    · exact ⟨_, _, rfl, get?_split_list position, below, (put_split_list position _).symm⟩
    · refine ⟨_, _, rfl, get?_split_map first, below, ?_⟩
      rw [put_map, Entries.insert_split first]
  · rintro ⟨child, next, place, held, below, rfl⟩
    cases current with
    | list items =>
        obtain ⟨index, spelled, item⟩ := Option.bind_eq_some_iff.mp held
        obtain ⟨front, back, rfl, rfl⟩ := split_of_getElem? item
        rw [put_split_list spelled]
        exact .item spelled below
    | map entries =>
        obtain ⟨front, back, rfl, first⟩ := Entries.split_of_get? held
        rw [put_map, Entries.insert_split first]
        exact .entry first below
    | record shape fields => contradiction
    | null | bool | number | string => contradiction

theorem at? (replaced : Replaced old new keys current root) : current.at? keys = some old := by
  induction keys generalizing current root with
  | nil =>
      cases replaced
      rfl
  | cons key rest ih =>
      obtain ⟨child, placed, _, held, below, _⟩ := cons_iff.mp replaced
      rw [at?, held, Option.bind_some, ih below]

end Replaced

theorem RecordFree.exists_replaced (free : current.RecordFree)
    (reached : current.at? keys = some found) (value : Value) :
    ∃ root, Replaced found value keys current root := by
  induction keys generalizing current with
  | nil =>
      cases reached
      exact ⟨value, .here⟩
  | cons key rest ih =>
      obtain ⟨child, held, below⟩ := Option.bind_eq_some_iff.mp reached
      obtain ⟨next, replaced⟩ := ih (free.get? held) below
      exact ⟨_, Replaced.cons_iff.mpr ⟨child, next, free.inPlace, held, replaced, rfl⟩⟩

theorem RecordFree.replaced_self (free : current.RecordFree)
    (reached : current.at? keys = some found) : Replaced found found keys current current := by
  induction keys generalizing current with
  | nil =>
      cases reached
      exact .here
  | cons key rest ih =>
      obtain ⟨child, held, below⟩ := Option.bind_eq_some_iff.mp reached
      exact Replaced.cons_iff.mpr ⟨child, child, free.inPlace, held, ih (free.get? held) below,
        (put_of_get? free.inPlace held).2.symm⟩

theorem RecordFree.at? (free : current.RecordFree) (reached : current.at? keys = some found) :
    found.RecordFree := by
  induction keys generalizing current with
  | nil =>
      cases reached
      exact free
  | cons key rest ih =>
      obtain ⟨child, held, below⟩ := Option.bind_eq_some_iff.mp reached
      exact ih (free.get? held) below

theorem descend_of_get? (place : current.inPlace) (held : current.get? key = some child)
    (write : Value → Written) :
    descend delimiter travelled current key write =
      { root := current.put key (write child).root, failure := (write child).failure } := by
  obtain ⟨accepted, same⟩ := put_of_get? place held
  have put := @putBack_entry delimiter _ travelled key current accepted child (write child)
  rw [same] at put
  have slot : Slot.within current key = .entry current key := by
    cases current with
    | record shape fields => contradiction
    | null | bool | number | string | list | map => rfl
  have read : (Slot.entry current key).get = child := by rw [Slot.get, held, Option.getD_some]
  rw [descend, Slot.at?_of_get? held, slot]
  dsimp only
  rw [read, put]

/-- A write goes down through what exists: what it makes of the value under a key is put there,
as long as `after` is still ahead of it. -/
def Descends (write : List String → Value → List String → Written) (after : List String) : Prop :=
  ∀ travelled current key child rest, current.inPlace → current.get? key = some child →
    after <:+ rest →
    write travelled current (key :: rest) =
      { root := current.put key (write (travelled ++ [key]) child rest).root
        failure := (write (travelled ++ [key]) child rest).failure }

/-- What such a write makes of the root is what it makes of the value that the keys before
`after` lead to, put into its place. -/
theorem Descends.along {write : List String → Value → List String → Written}
    (descends : Descends write after) {inner : Written}
    (ended : write (travelled ++ before) found after = inner)
    (replaced : Replaced found inner.root before current root) :
    write travelled current (before ++ after) = { root, failure := inner.failure } := by
  induction before generalizing travelled current root with
  | nil =>
      cases replaced
      rwa [List.append_nil] at ended
  | cons key rest ih =>
      obtain ⟨child, next, place, held, below, rfl⟩ := Replaced.cons_iff.mp replaced
      have deeper : write (travelled ++ [key]) child (rest ++ after) =
          { root := next, failure := inner.failure } := ih (by simpa using ended) below
      rw [List.cons_append, descends _ _ _ _ _ place held (List.suffix_append rest after), deeper]

end Reshape.Value

namespace Reshape

/-- A write that succeeds by putting one value in the place of another, to which keys lead. -/
def Written.Places (written : Written) (root : Value) (keys : List String) (old new : Value) : Prop :=
  written.failure = none ∧ Value.Replaced old new keys root written.root

namespace Value

section Along

variable [Record.Accessors] {delimiter : Delimiter} {travelled before after : List String}
  {root found new : Value}
  {write : List String → Value → List String → Written} (descends : Descends write after)
  (free : root.RecordFree) (reached : root.at? before = some found)
include descends free reached

theorem Descends.places (ended : write (travelled ++ before) found after = { root := new }) :
    (write travelled root (before ++ after)).Places root before found new := by
  obtain ⟨placed, replaced⟩ := free.exists_replaced reached new
  rw [descends.along ended replaced]
  exact ⟨rfl, replaced⟩

theorem Descends.fails {failure : PathError}
    (ended : write (travelled ++ before) found after = { root := found, failure := some failure }) :
    write travelled root (before ++ after) = { root, failure := some failure } :=
  descends.along ended (free.replaced_self reached)

end Along

end Value

end Reshape
