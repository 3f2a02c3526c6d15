import Reshape.Proofs.Path.Index
import Reshape.Proofs.Path.Text

namespace Reshape

/-- A key that can be a segment of a path with dots. -/
structure Segment (key : String) : Prop where
  nonempty : key ≠ ""
  undotted : '.' ∉ key.toList
  literal : key ∉ ["*", ">", "|"]

theorem Segment.position (index : Nat) : Segment (toString index) := by
  have digits {character : Char} (member : character ∈ (toString index).toList) :=
    isDigit_of_mem_toString member
  refine ⟨?_, ?_, ?_⟩
  · intro empty
    have nonempty : (toString index).toList ≠ [] := by
      rw [toList_toString]
      exact Nat.toDigits_ne_nil
    exact nonempty (by rw [empty]; rfl)
  · intro dot
    exact absurd (digits dot) (by decide)
  · intro operator
    simp only [List.mem_cons, List.not_mem_nil, or_false] at operator
    rcases operator with same | same | same
    · have star : '*' ∈ (toString index).toList := by rw [same]; decide
      exact absurd (digits star) (by decide)
    · have angle : '>' ∈ (toString index).toList := by rw [same]; decide
      exact absurd (digits angle) (by decide)
    · have bar : '|' ∈ (toString index).toList := by rw [same]; decide
      exact absurd (digits bar) (by decide)

namespace Delimiter

variable {keys others : List String}

theorem joinKeys_eq (delimiter : Delimiter) (keys : List String) :
    delimiter.joinKeys keys = delimiter.join (keys.map .key) := by
  rw [joinKeys, join, List.map_map]
  exact congrArg _ (List.map_id keys).symm

theorem split_joinKeys (segments : ∀ key ∈ keys, Segment key) :
    dot.split (dot.joinKeys keys) = keys.map .key := by
  have visible : keys.map Token.key ≠ [.key ""] := by
    intro blank
    have named : "" ∈ keys := by
      have member : Token.key "" ∈ keys.map Token.key := by simp [blank]
      simpa using member
    exact (segments "" named).nonempty rfl
  rw [joinKeys_eq]
  refine split_join rfl visible (List.forall_mem_map.mpr fun key member =>
    (segments key member).undotted) fun name member => ?_
  exact (segments name (by simpa using member)).literal

theorem joinKeys_ne_empty (nonempty : keys ≠ []) (segments : ∀ key ∈ keys, Segment key) :
    dot.joinKeys keys ≠ "" := by
  intro empty
  have parted := split_joinKeys segments
  rw [empty] at parted
  exact nonempty (List.map_eq_nil_iff.mp parted.symm)

theorem joinKeys_injective (segments : ∀ key ∈ keys, Segment key)
    (othersSegments : ∀ key ∈ others, Segment key)
    (same : dot.joinKeys keys = dot.joinKeys others) : keys = others := by
  have tokens := congrArg dot.split same
  rw [split_joinKeys segments, split_joinKeys othersSegments] at tokens
  exact (List.map_inj_right fun _ _ => Token.key.inj).mp tokens

end Delimiter

end Reshape
