import Reshape.Proofs.Write.Set

namespace Reshape.Value

variable {delimiter : Delimiter} {travelled keys others : List String} {current root : Value}

/-- Neither path goes on where the other ends. -/
def Parted (keys others : List String) : Prop := ¬ keys <+: others ∧ ¬ others <+: keys

/-- A key that cannot be a list position written with a sign. -/
def Unsigned (key : String) : Prop := key.toList.head? ≠ some '+'

theorem Parted.tail {key : String} {rest after : List String}
    (parted : Parted (key :: rest) (key :: after)) : Parted rest after :=
  ⟨fun shorter => parted.1 (List.cons_prefix_cons.mpr ⟨rfl, shorter⟩),
    fun shorter => parted.2 (List.cons_prefix_cons.mpr ⟨rfl, shorter⟩)⟩

section

variable [Record.Accessors]

theorem at?_scaffold {next : String} {rest : List String} (others : List String) :
    (scaffold others).at? (next :: rest) = none := by
  cases others with
  | nil => rfl
  | cons key below => rw [scaffold, at?, get?_emptyFor]; rfl

/-- Below a key, a path that goes on finds the same before and after what is missing there
is created. -/
theorem at?_valueUnder (container : Value) (key next : String) (rest others : List String) :
    (valueUnder container key others).at? (next :: rest) =
      (container.get? key).bind (·.at? (next :: rest)) := by
  unfold valueUnder
  cases container.get? key with
  | some child => rfl
  | none => exact at?_scaffold others

theorem at?_setAt_of_parted {value : Value} (free : current.RecordFree)
    (parted : Parted keys others) (unsigned : ∀ key ∈ keys, Unsigned key)
    (othersUnsigned : ∀ key ∈ others, Unsigned key) :
    (setAt delimiter travelled current keys value).root.at? others = current.at? others := by
  induction keys generalizing travelled current others with
  | nil => exact absurd List.nil_prefix parted.1
  | cons key rest ih =>
      cases others with
      | nil => exact absurd List.nil_prefix parted.2
      | cons other after =>
          cases accepted : (containerFor key current).accepts key with
          | false =>
              obtain ⟨reason, refused⟩ := setAt_of_refuses free accepted delimiter travelled rest
              rw [refused, at?, at?, get?_containerFor]
          | true =>
              rw [setAt_of_accepts accepted]
              dsimp only
              rw [at?, at?]
              by_cases same : key = other
              · subst same
                have childFree := recordFree_valueUnder (recordFree_containerFor free key) key rest
                have below := @ih (travelled ++ [key]) after _ childFree parted.tail
                  (fun name member => unsigned name (List.mem_cons_of_mem key member))
                  (fun name member => othersUnsigned name (List.mem_cons_of_mem key member))
                cases after with
                | nil => exact absurd List.nil_prefix parted.tail.2
                | cons next more =>
                    rw [get?_put accepted, Option.bind_some, below, at?_valueUnder,
                      get?_containerFor]
              · have different := get?_put_other accepted same (unsigned key (by simp))
                  (othersUnsigned other (by simp))
                rw [different, get?_containerFor]

/-- A write, successful or not, changes nothing that is found at keys which part from its
own, unless a sign gives a list position a second spelling. -/
theorem resolve_writeSet_of_parted {path : PathForm} (free : root.RecordFree)
    (parsed : path.parse delimiter = .ok (keys.map .key)) (parted : Parted keys others)
    (unsigned : ∀ key ∈ keys, Unsigned key) (othersUnsigned : ∀ key ∈ others, Unsigned key)
    (value : Value) :
    (root.writeSet delimiter path value).root.resolve delimiter false (others.map .key) =
      root.resolve delimiter false (others.map .key) := by
  rw [resolve_keys_lenient, resolve_keys_lenient, writeSet_keys parsed,
    at?_setAt_of_parted free parted unsigned othersUnsigned]

end

/-- The write stops at the second item of a list that it has just created. -/
theorem resolve_writeSet_of_parted_halfway :
    let root : Value := .map [("a", .map [("k", .bool true)])]
    let written := root.writeSet .dot (.text "a.b.1") .null
    root.RecordFree ∧ Parted ["a", "b", "1"] ["a", "k"] ∧ written.failure.isSome = true ∧
      written.root = .map [("a", .map [("k", .bool true), ("b", .list [])])] ∧
      written.root.resolve .dot false [.key "a", .key "k"] =
        root.resolve .dot false [.key "a", .key "k"] := by
  intro root written
  have free : root.RecordFree := ⟨⟨trivial, trivial⟩, trivial⟩
  have parted : Parted ["a", "b", "1"] ["a", "k"] := by unfold Parted; decide
  have unsigned : ∀ key ∈ ["a", "b", "1"], Unsigned key := by unfold Unsigned; decide
  have othersUnsigned : ∀ key ∈ ["a", "k"], Unsigned key := by unfold Unsigned; decide
  exact ⟨free, parted, by decide, rfl,
    resolve_writeSet_of_parted free rfl parted unsigned othersUnsigned .null⟩

end Reshape.Value
