import Reshape.Proofs.Value.Data

namespace Reshape

namespace View

mutual

def RecordFree : View → Prop
  | .list items => ItemsRecordFree items
  | .map entries => EntriesRecordFree entries
  | .record _ _ => False
  | _ => True

def ItemsRecordFree : List View → Prop
  | [] => True
  | view :: rest => view.RecordFree ∧ ItemsRecordFree rest

def EntriesRecordFree : List (String × View) → Prop
  | [] => True
  | (_, view) :: rest => view.RecordFree ∧ EntriesRecordFree rest

end

end View

namespace Value

variable [Record.Display]

mutual

theorem recordFree_view : (value : Value) → value.RecordFree → value.view.RecordFree
  | .list items, free => recordFree_viewItems items free
  | .map entries, free => recordFree_viewEntries entries free
  | .null, _ | .bool _, _ | .number _, _ | .string _, _ => trivial

theorem recordFree_viewItems : (items : List Value) → ItemsRecordFree items →
    View.ItemsRecordFree (viewItems items)
  | [], _ => trivial
  | value :: rest, ⟨first, others⟩ =>
      ⟨recordFree_view value first, recordFree_viewItems rest others⟩

theorem recordFree_viewEntries : (entries : List (String × Value)) → EntriesRecordFree entries →
    View.EntriesRecordFree (viewEntries entries)
  | [], _ => trivial
  | (_, value) :: rest, ⟨first, others⟩ =>
      ⟨recordFree_view value first, recordFree_viewEntries rest others⟩

end

theorem eq_of_view_eq {left right : Value} (leftFree : left.RecordFree)
    (rightFree : right.RecordFree) (same : left.view = right.view) : left = right :=
  calc left = left.data := (data_of_recordFree left leftFree).symm
    _ = right.data := congrArg View.data same
    _ = right := data_of_recordFree right rightFree

end Value

end Reshape
