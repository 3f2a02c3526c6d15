import Mathlib.Data.List.Nodup
import Reshape.Proofs.Path.Segment
import Reshape.Proofs.Read.Keys

namespace Reshape.Value

/-- The same leaves, seen from above a key. -/
def under (key : String) (leaves : List (List String × Value)) : List (List String × Value) :=
  leaves.map fun (keys, leaf) => (key :: keys, leaf)

mutual

/-- The leaves of a value in document order, each with the keys that lead to it: scalars,
nulls and empty containers. The keys of list items are their positions. -/
def leaves : Value → List (List String × Value)
  | .list items => if items.isEmpty then [([], .list items)] else itemLeaves 0 items
  | .map entries => if entries.isEmpty then [([], .map entries)] else entryLeaves entries
  | leaf => [([], leaf)]

def itemLeaves (position : Nat) : List Value → List (List String × Value)
  | [] => []
  | item :: rest => under (toString position) item.leaves ++ itemLeaves (position + 1) rest

def entryLeaves : List (String × Value) → List (List String × Value)
  | [] => []
  | (key, value) :: rest => under key value.leaves ++ entryLeaves rest

end

mutual

/-- Every part of the value has a path of its own that can be written with dots: map keys
are segments that are no list positions, and lists have no more items than positions. -/
def Addressable : Value → Prop
  | .list items => items.length ≤ UInt64.size ∧ ItemsAddressable items
  | .map entries => Entries.Distinct entries ∧ EntriesAddressable entries
  | .record _ _ => False
  | _ => True

def ItemsAddressable : List Value → Prop
  | [] => True
  | item :: rest => item.Addressable ∧ ItemsAddressable rest

def EntriesAddressable : List (String × Value) → Prop
  | [] => True
  | (key, value) :: rest =>
      (Segment key ∧ index? key = none) ∧ value.Addressable ∧ EntriesAddressable rest

end

/-- What stands directly below a value, with the keys that lead there. -/
def children : Value → List (String × Value)
  | .list items => items.zipIdx.map fun (item, position) => (toString position, item)
  | .map entries => entries
  | _ => []

variable {value : Value}

theorem itemLeaves_eq (position : Nat) (items : List Value) :
    itemLeaves position items =
      (items.zipIdx position).flatMap fun (item, place) => under (toString place) item.leaves := by
  induction items generalizing position with
  | nil => rfl
  | cons item rest ih => rw [itemLeaves, ih, List.zipIdx_cons, List.flatMap_cons]

theorem entryLeaves_eq (entries : List (String × Value)) :
    entryLeaves entries = entries.flatMap fun (key, value) => under key value.leaves := by
  induction entries with
  | nil => rfl
  | cons entry rest ih => rw [entryLeaves, ih, List.flatMap_cons]

theorem leaves_of_childless (childless : value.children = []) : value.leaves = [([], value)] := by
  cases value with
  | list items =>
      cases items with
      | nil => rfl
      | cons item rest => simp [children] at childless
  | map entries =>
      cases entries with
      | nil => rfl
      | cons entry rest => contradiction
  | null | bool | number | string | record => rfl

theorem leaves_of_children (parent : value.children ≠ []) :
    value.leaves = value.children.flatMap fun child => under child.1 child.2.leaves := by
  cases value with
  | list items =>
      cases items with
      | nil => contradiction
      | cons item rest =>
          have listed : (list (item :: rest)).leaves = itemLeaves 0 (item :: rest) := rfl
          rw [listed, itemLeaves_eq, children, List.flatMap_map]
  | map entries =>
      cases entries with
      | nil => contradiction
      | cons entry rest => exact entryLeaves_eq (entry :: rest)
  | null | bool | number | string | record => contradiction

theorem sizeOf_child {child : String × Value} (member : child ∈ value.children) :
    sizeOf child.2 < sizeOf value := by
  cases value with
  | list items =>
      obtain ⟨⟨item, position⟩, listed, rfl⟩ := List.mem_map.mp member
      have smaller : sizeOf item < sizeOf items :=
        List.sizeOf_lt_of_mem (List.fst_mem_of_mem_zipIdx listed)
      simp only [list.sizeOf_spec]
      omega
  | map entries =>
      have smaller := List.sizeOf_lt_of_mem (show child ∈ entries from member)
      obtain ⟨key, value⟩ := child
      simp only [Prod.mk.sizeOf_spec] at smaller
      simp only [map.sizeOf_spec]
      omega
  | null | bool | number | string | record => contradiction

theorem mem_children_list {items : List Value} {item : Value} (member : item ∈ items) :
    ∃ key, (key, item) ∈ (list items).children := by
  obtain ⟨position, held⟩ := List.mem_iff_getElem?.mp member
  have placed : (item, position) ∈ items.zipIdx := List.mem_zipIdx_iff_getElem?.mpr held
  exact ⟨toString position, List.mem_map.mpr ⟨(item, position), placed, rfl⟩⟩

theorem children_induction {motive : Value → Prop}
    (step : ∀ value, (∀ child ∈ value.children, motive child.2) → motive value) (value : Value) :
    motive value :=
  step value fun child _ => children_induction step child.2
termination_by sizeOf value
decreasing_by exact sizeOf_child ‹_›

theorem itemsAddressable_iff {items : List Value} :
    ItemsAddressable items ↔ ∀ item ∈ items, item.Addressable := by
  induction items with
  | nil => simp [ItemsAddressable]
  | cons item rest ih => simp [ItemsAddressable, ih]

theorem entriesAddressable_iff {entries : List (String × Value)} :
    EntriesAddressable entries ↔
      ∀ entry ∈ entries, (Segment entry.1 ∧ index? entry.1 = none) ∧ entry.2.Addressable := by
  induction entries with
  | nil => simp [EntriesAddressable]
  | cons entry rest ih =>
      obtain ⟨key, value⟩ := entry
      simp only [EntriesAddressable, ih, List.forall_mem_cons, and_assoc]

theorem Addressable.of_mem_children [Record.Accessors] {child : String × Value}
    (addressable : value.Addressable)
    (member : child ∈ value.children) :
    Segment child.1 ∧ value.get? child.1 = some child.2 ∧ child.2.Addressable := by
  cases value with
  | list items =>
      obtain ⟨bounded, each⟩ := addressable
      obtain ⟨⟨item, position⟩, listed, rfl⟩ := List.mem_map.mp member
      have held : items[position]? = some item := List.mem_zipIdx_iff_getElem?.mp listed
      have inside : position < items.length := (List.getElem?_eq_some_iff.mp held).1
      have found : index? (toString position) = some position :=
        index?_toString (Nat.lt_of_lt_of_le inside bounded)
      refine ⟨Segment.position position, ?_, ?_⟩
      · rw [get?, found, Option.bind_some, held]
      · exact itemsAddressable_iff.mp each item (List.mem_of_getElem? held)
  | map entries =>
      obtain ⟨distinct, each⟩ := addressable
      obtain ⟨⟨segment, _⟩, below⟩ := entriesAddressable_iff.mp each child member
      exact ⟨segment, Entries.get?_of_mem distinct member, below⟩
  | null | bool | number | string | record => contradiction

theorem Addressable.distinct_children (addressable : value.Addressable) :
    Entries.Distinct value.children := by
  cases value with
  | list items =>
      have names : Entries.names (list items).children = (items.zipIdx.map (·.2)).map toString := by
        rw [Entries.names, children, List.map_map, List.map_map]
        rfl
      rw [Entries.Distinct, names, List.zipIdx_map_snd]
      exact List.Nodup.map toString_injective List.nodup_range'
  | map entries => exact addressable.1
  | null | bool | number | string | record => exact List.nodup_nil

theorem Addressable.leaf [Record.Accessors] {leaf : List String × Value}
    (addressable : value.Addressable)
    (member : leaf ∈ value.leaves) :
    (∀ key ∈ leaf.1, Segment key) ∧ value.at? leaf.1 = some leaf.2 := by
  induction value using children_induction generalizing leaf with
  | step value ih =>
      by_cases childless : value.children = []
      · rw [leaves_of_childless childless, List.mem_singleton] at member
        subst member
        exact ⟨by simp, rfl⟩
      · rw [leaves_of_children childless, List.mem_flatMap] at member
        obtain ⟨child, inside, listed⟩ := member
        obtain ⟨⟨keys, scalar⟩, below, rfl⟩ := List.mem_map.mp listed
        obtain ⟨segment, found, childAddressable⟩ := addressable.of_mem_children inside
        obtain ⟨segments, reached⟩ := ih child inside childAddressable below
        exact ⟨List.forall_mem_cons.mpr ⟨segment, segments⟩, by rw [at?, found]; exact reached⟩

theorem Addressable.distinct_leaves [Record.Accessors] (addressable : value.Addressable) :
    (value.leaves.map (·.1)).Nodup := by
  induction value using children_induction with
  | step value ih =>
      by_cases childless : value.children = []
      · rw [leaves_of_childless childless]
        exact List.nodup_singleton _
      · have paths (key : String) (leaves : List (List String × Value)) :
            (under key leaves).map (·.1) = (leaves.map (·.1)).map (key :: ·) := by
          simp [under]
        rw [leaves_of_children childless, List.map_flatMap, List.nodup_flatMap]
        constructor
        · intro child inside
          rw [paths]
          exact (ih child inside (addressable.of_mem_children inside).2.2).map
            (List.cons_injective)
        · have names : value.children.Pairwise (·.1 ≠ ·.1) :=
            List.pairwise_map.mp addressable.distinct_children
          refine names.imp fun different keys first second => ?_
          dsimp only at first second
          rw [paths] at first second
          obtain ⟨_, _, rfl⟩ := List.mem_map.mp first
          obtain ⟨_, _, same⟩ := List.mem_map.mp second
          exact different (List.cons.inj same).1.symm

end Reshape.Value
