import Reshape.Proofs.Access.Containers

namespace Reshape.Value

/-- The keys of a list are the spellings of its positions. A write at one key leaves what another
key reads, unless both spell one position, which takes a sign. -/
theorem set_list_unless_respelled [Record.Accessors] (items : List Value) :
    (∀ key index, (index? key = some index ↔ index < UInt64.size ∧ SpellsIndex key index)) ∧
    ∀ key other, key ≠ other → (list items).has key → (list items).has other → ∀ value,
      ∃ after, (list items).set key value = .ok after ∧
        (after.get? other =
          if index? key = index? other then some value else (list items).get? other) ∧
        (index? key = index? other →
          key.toList.head? = some '+' ∨ other.toList.head? = some '+') := by
  refine ⟨fun key index => index?_eq_some_iff, ?_⟩
  intro key other different here there value
  obtain ⟨child, found⟩ := Option.isSome_iff_exists.mp here
  have accepted : (list items).accepts key := (put_of_get? rfl found).1
  refine ⟨(list items).put key value, set_of_accepts accepted value, ?_, fun same => ?_⟩
  · split
    · rename_i same
      exact get?_put_samePlace accepted same value
    · rename_i apart
      exact get?_put_apart accepted apart value
  · obtain ⟨index, spelled, _⟩ := Option.bind_eq_some_iff.mp found
    obtain ⟨_, keySpells⟩ := index?_eq_some_iff.mp spelled
    obtain ⟨_, otherSpells⟩ := index?_eq_some_iff.mp (same.symm.trans spelled)
    by_cases decimal : key = toString index
    · exact .inr (otherSpells.signed fun equal => different (decimal.trans equal.symm))
    · exact .inl (keySpells.signed decimal)

/-- The second position, spelled with a sign and a zero, is not the first. -/
theorem set_list_unless_respelled_apart :
    let items : List Value := [.bool false, .null]
    "+01" ≠ "0" ∧ (list items).has "+01" ∧ (list items).has "0" ∧
      ∃ after, (list items).set "+01" (.bool true) = .ok after ∧
        after.get? "0" = some (.bool false) := by
  intro items
  have here : (list items).has "+01" := by decide
  have there : (list items).has "0" := by decide
  obtain ⟨after, written, read, _⟩ :=
    (set_list_unless_respelled items).2 "+01" "0" (by decide) here there (.bool true)
  exact ⟨by decide, here, there, after, written, read.trans rfl⟩

/-- A sign gives every position of a list a second key, and zeros behind it further ones, so a
write at one key of a list can replace what another key reads. -/
theorem set_list_respelled :
    let items : List Value := [.bool false]
    let after : List Value := [.bool true]
    "+0" ≠ "0" ∧ (list items).has "+0" ∧ (list items).has "0" ∧
      (list items).set "+0" (.bool true) = .ok (.list after) ∧
      (list items).get? "0" = some (.bool false) ∧ (list after).get? "0" = some (.bool true) ∧
      index? "+5" = some 5 ∧ index? "+005" = some 5 ∧ toString 5 = "5" := by
  intro items after
  exact ⟨by decide, by decide, by decide, rfl, rfl, rfl, by decide, by decide, by decide⟩

end Reshape.Value
