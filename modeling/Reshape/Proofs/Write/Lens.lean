import Reshape.Proofs.Write.Set

namespace Reshape.Value

section

variable [Record.Accessors] {delimiter : Delimiter} {travelled keys : List String}
  {current root : Value}

theorem at?_setAt {value : Value} (free : current.RecordFree)
    (written : (setAt delimiter travelled current keys value).failure = none) :
    (setAt delimiter travelled current keys value).root.at? keys = some value := by
  induction keys generalizing travelled current with
  | nil => rfl
  | cons key rest ih =>
      have accepted := accepts_of_setAt free written
      have childFree := recordFree_valueUnder (recordFree_containerFor free key) key rest
      rw [setAt_of_accepts accepted] at written ⊢
      rw [at?, get?_put accepted, Option.bind_some]
      exact ih childFree written

theorem setAt_of_at? {value : Value} (free : current.RecordFree)
    (found : current.at? keys = some value) :
    setAt delimiter travelled current keys value = { root := current } := by
  induction keys generalizing travelled current with
  | nil =>
      cases found
      rfl
  | cons key rest ih =>
      obtain ⟨child, here, below⟩ := Option.bind_eq_some_iff.mp found
      have container := containerFor_of_get? here
      obtain ⟨accepted, unchanged⟩ := put_of_get? free.inPlace here
      rw [setAt_of_accepts (container.symm ▸ accepted), container, valueUnder_of_get? here,
        ih (free.get? here) below]
      rw [unchanged]

theorem setAt_setAt {first : Value} (free : current.RecordFree)
    (written : (setAt delimiter travelled current keys first).failure = none) (second : Value) :
    setAt delimiter travelled (setAt delimiter travelled current keys first).root keys second =
        setAt delimiter travelled current keys second ∧
      (setAt delimiter travelled current keys second).failure = none := by
  induction keys generalizing travelled current with
  | nil => exact ⟨rfl, rfl⟩
  | cons key rest ih =>
      let container := containerFor key current
      let child := setAt delimiter (travelled ++ [key]) (valueUnder container key rest) rest first
      have accepted := accepts_of_setAt free written
      have childFree := recordFree_valueUnder (recordFree_containerFor free key) key rest
      have entered : setAt delimiter travelled current (key :: rest) first =
          { root := container.put key child.root, failure := child.failure } :=
        setAt_of_accepts accepted first
      have stored : (container.put key child.root).get? key = some child.root :=
        get?_put accepted child.root
      have grown := containerFor_of_get? stored
      have again : (container.put key child.root).accepts key := accepts_put accepted child.root
      obtain ⟨same, completed⟩ := ih childFree (by rw [entered] at written; exact written)
      rw [entered, setAt_of_accepts (grown.symm ▸ again), grown, valueUnder_of_get? stored, same,
        put_put accepted, setAt_of_accepts accepted]
      exact ⟨rfl, completed⟩

/-- Writing at literal keys is an update of the place they lead to: what was written is
read back, writing back what is there leaves the root as it is, and a second write is all
that counts. -/
theorem writeSet_lens {path : PathForm} (free : root.RecordFree)
    (parsed : path.parse delimiter = .ok (keys.map .key)) :
    (∀ value, (root.writeSet delimiter path value).failure = none →
      (root.writeSet delimiter path value).root.read delimiter true path = .ok value) ∧
    (∀ value, root.read delimiter true path = .ok value →
      root.writeSet delimiter path value = { root }) ∧
    (∀ first second, (root.writeSet delimiter path first).failure = none →
      (root.writeSet delimiter path first).root.writeSet delimiter path second =
          root.writeSet delimiter path second ∧
        (root.writeSet delimiter path second).failure = none) := by
  simp only [writeSet_keys parsed, read_strict_keys_iff delimiter _ keys parsed]
  refine ⟨?_, ?_, ?_⟩
  · intro value written
    exact at?_setAt free written
  · intro value found
    exact setAt_of_at? free found
  · intro first second written
    exact setAt_setAt free written second

end

/-- A null on the way becomes a list, and its first item a map. -/
theorem writeSet_lens_creating :
    let root : Value := .map [("a", .null), ("b", .bool true)]
    let written := root.writeSet .dot (.text "a.0.c") (.bool false)
    root.RecordFree ∧ written.failure = none ∧
      written.root = .map [("a", .list [.map [("c", .bool false)]]), ("b", .bool true)] ∧
      written.root.read .dot true (.text "a.0.c") = .ok (.bool false) := by
  intro root written
  have free : root.RecordFree := ⟨trivial, trivial, trivial⟩
  have completed : written.failure = none := rfl
  have parsed : PathForm.parse .dot (.text "a.0.c") = .ok (["a", "0", "c"].map .key) := rfl
  exact ⟨free, completed, rfl, (writeSet_lens free parsed).1 (.bool false) completed⟩

end Reshape.Value
