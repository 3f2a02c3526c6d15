import Reshape.Access.Container

namespace Reshape.Value

def held? [Record.Accessors] (container : Value) (key : String) : Option Value :=
  match container with
  | .record _ fields => Entries.get? key fields
  | other => other.get? key

mutual

/-- The shape of every record in a value, at any depth, is allowed. -/
def ShapedBy (allowed : Option Shape → Prop) : Value → Prop
  | .list items => ItemsShapedBy allowed items
  | .map entries => EntriesShapedBy allowed entries
  | .record shape fields => allowed shape ∧ EntriesShapedBy allowed fields
  | _ => True

def ItemsShapedBy (allowed : Option Shape → Prop) : List Value → Prop
  | [] => True
  | value :: rest => value.ShapedBy allowed ∧ ItemsShapedBy allowed rest

def EntriesShapedBy (allowed : Option Shape → Prop) : List (String × Value) → Prop
  | [] => True
  | (_, value) :: rest => value.ShapedBy allowed ∧ EntriesShapedBy allowed rest

end

variable {allowed : Option Shape → Prop} {value child : Value} {key : String}

theorem itemsShapedBy_iff {items : List Value} :
    ItemsShapedBy allowed items ↔ ∀ item ∈ items, item.ShapedBy allowed := by
  induction items with
  | nil => simp [ItemsShapedBy]
  | cons item rest ih => simp [ItemsShapedBy, ih]

theorem entriesShapedBy_iff {entries : List (String × Value)} :
    EntriesShapedBy allowed entries ↔ ∀ entry ∈ entries, entry.2.ShapedBy allowed := by
  induction entries with
  | nil => simp [EntriesShapedBy]
  | cons entry rest ih =>
      obtain ⟨name, value⟩ := entry
      simp [EntriesShapedBy, ih]

theorem EntriesShapedBy.get? {entries : List (String × Value)}
    (shaped : EntriesShapedBy allowed entries) (found : Entries.get? key entries = some child) :
    child.ShapedBy allowed :=
  entriesShapedBy_iff.mp shaped (key, child) (Entries.mem_of_get? found)

theorem ShapedBy.held? [Record.Accessors] (shaped : value.ShapedBy allowed)
    (found : value.held? key = some child) :
    child.ShapedBy allowed := by
  cases value with
  | list items =>
      obtain ⟨index, _, item⟩ := Option.bind_eq_some_iff.mp found
      exact itemsShapedBy_iff.mp shaped child (List.mem_of_getElem? item)
  | map entries => exact EntriesShapedBy.get? shaped found
  | record shape fields => exact EntriesShapedBy.get? shaped.2 found
  | null | bool | number | string => contradiction

theorem shapedBy_emptyFor (key : String) : (emptyFor key).ShapedBy allowed := by
  unfold emptyFor
  split <;> trivial

end Reshape.Value
