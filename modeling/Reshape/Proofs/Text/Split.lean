import Reshape.Text.Split

namespace Reshape.Text

variable {separator : String} {character : Char} {parts : List String}

theorem prepend_eq_modifyHead {parts : List (List Char)} (nonempty : parts ≠ []) (first : Char) :
    prepend first parts = parts.modifyHead (first :: ·) := by
  cases parts with
  | nil => contradiction
  | cons part rest => rfl

theorem cut_singleton (character : Char) (text : List Char) :
    cut [character] 0 text = text.splitOn character := by
  induction text with
  | nil => rfl
  | cons first rest ih =>
      have found : [character].isPrefixOf (first :: rest) = (first == character) := by
        simp [List.isPrefixOf, Bool.beq_comm]
      rw [cut, found, List.splitOn_cons_eq_if_modifyHead]
      split
      · exact congrArg ([] :: ·) ih
      · rw [ih, prepend_eq_modifyHead (List.splitOn_ne_nil character rest)]

theorem split_singleton (single : separator.toList = [character]) (text : String) :
    split separator text = (text.toList.splitOn character).map String.ofList := by
  have visible : ¬ separator.isEmpty := by
    intro empty
    rw [String.isEmpty_iff.mp empty] at single
    contradiction
  rw [split, if_neg visible, single, cut_singleton]

theorem cut_ne_nil (separator text : List Char) (skip : Nat) : cut separator skip text ≠ [] := by
  induction text generalizing skip with
  | nil => simp [cut]
  | cons first rest ih =>
      cases skip with
      | succ skip => exact ih skip
      | zero =>
          rw [cut]
          split
          · exact List.cons_ne_nil _ _
          · rw [prepend_eq_modifyHead (ih 0)]
            simpa [List.modifyHead_eq_nil_iff] using ih 0

theorem split_ne_nil (separator text : String) : split separator text ≠ [] := by
  unfold split
  split
  · exact List.cons_ne_nil _ _
  · simpa using cut_ne_nil separator.toList text.toList 0

theorem intercalate_prepend (separator : List Char) {parts : List (List Char)} (nonempty : parts ≠ [])
    (first : Char) :
    separator.intercalate (prepend first parts) = first :: separator.intercalate parts := by
  cases parts with
  | nil => contradiction
  | cons part rest => cases rest <;> simp [prepend, List.intercalate_cons_cons]

/-- Where the separator is found the cut goes on behind all of it, so what is joined again
there is what was cut away, even if the separator overlaps itself. -/
theorem intercalate_cut {separator : List Char} (visible : separator ≠ []) (text : List Char)
    (skip : Nat) : separator.intercalate (cut separator skip text) = text.drop skip := by
  induction text generalizing skip with
  | nil => simp [cut]
  | cons first rest ih =>
      cases skip with
      | succ skip => exact ih skip
      | zero =>
          rw [cut, List.drop_zero]
          split
          · rename_i found
            obtain ⟨behind, whole⟩ := List.isPrefixOf_iff_prefix.mp found
            have length : 0 < separator.length := List.length_pos_iff.mpr visible
            have after : rest.drop (separator.length - 1) = behind := by
              have dropped := congrArg (List.drop separator.length) whole
              rw [List.drop_left, List.drop_cons length] at dropped
              exact dropped.symm
            rw [List.intercalate_cons_of_ne_nil (cut_ne_nil separator rest _), ih, after, ← whole,
              List.nil_append]
          · rw [intercalate_prepend separator (cut_ne_nil separator rest 0), ih, List.drop_zero]

theorem join_split (visible : separator ≠ "") (text : String) :
    join separator (split separator text) = text := by
  have named : ¬ separator.isEmpty := fun empty => visible (String.isEmpty_iff.mp empty)
  have characters : separator.toList ≠ [] := by simpa using visible
  apply String.toList_inj.mp
  rw [split, if_neg named, join, String.toList_intercalate, List.map_map]
  simpa [Function.comp_def] using intercalate_cut characters text.toList 0

theorem splitOn_append_cons (character : Char) (left right : List Char) :
    (left ++ character :: right).splitOn character =
      left.splitOn character ++ right.splitOn character := by
  induction left with
  | nil => simp [List.splitOn_cons_eq_if_modifyHead]
  | cons first rest ih =>
      rw [List.cons_append, List.splitOn_cons_eq_if_modifyHead, List.splitOn_cons_eq_if_modifyHead,
        ih]
      split
      · rfl
      · cases found : rest.splitOn character with
        | nil => exact absurd found (List.splitOn_ne_nil character rest)
        | cons part others => rfl

theorem split_append (single : separator.toList = [character]) (left right : String) :
    split separator (left ++ separator ++ right) =
      split separator left ++ split separator right := by
  rw [split_singleton single, split_singleton single, split_singleton single, ← List.map_append,
    ← splitOn_append_cons]
  simp [single]

theorem split_join (single : separator.toList = [character]) (nonempty : parts ≠ [])
    (absent : ∀ part ∈ parts, character ∉ part.toList) :
    split separator (join separator parts) = parts := by
  have texts : ∀ text ∈ parts.map String.toList, character ∉ text :=
    List.forall_mem_map.mpr absent
  rw [split_singleton single, join, String.toList_intercalate, single,
    List.splitOn_intercalate character texts (by simpa using nonempty), List.map_map]
  simp [Function.comp_def]

theorem join_ne_empty (single : separator.toList = [character]) (nonempty : parts ≠ [])
    (absent : ∀ part ∈ parts, character ∉ part.toList) (visible : parts ≠ [""]) :
    join separator parts ≠ "" := by
  intro empty
  have parted := split_join single nonempty absent
  rw [empty, split_singleton single] at parted
  exact visible parted.symm

end Reshape.Text
