import Reshape.Proofs.Value.Leaves
import Reshape.Proofs.Write.Set

namespace Reshape.Value

variable [Record.Accessors]

/-- The writes succeed one after the other and turn the content, which may be missing at
first, into the result. -/
inductive Fills (delimiter : Delimiter) : Option Value → List (List String × Value) → Value → Prop
  | done (value : Value) : Fills delimiter (some value) [] value
  | write {content : Option Value} {keys : List String} {leaf next result : Value}
      {rest : List (List String × Value)}
      (written : ∀ travelled, setAt delimiter travelled (content.getD (scaffold keys)) keys leaf =
        { root := next })
      (others : Fills delimiter (some next) rest result) :
      Fills delimiter content ((keys, leaf) :: rest) result

namespace Fills

variable {delimiter : Delimiter} {content : Option Value} {container middle result : Value}
  {key : String} {leaves others : List (List String × Value)}

theorem append (fills : Fills delimiter content leaves middle)
    (onward : Fills delimiter (some middle) others result) :
    Fills delimiter content (leaves ++ others) result := by
  induction fills with
  | done value => exact onward
  | write written _ ih => exact .write written (ih onward)

theorem under (accepted : container.accepts key)
    (fills : Fills delimiter (container.get? key) leaves result) :
    Fills delimiter (some container) (under key leaves) (container.put key result) := by
  -- the container changes with every write, but it takes the key and holds the content there
  generalize held : container.get? key = content at fills
  induction fills generalizing container with
  | done value =>
      rw [(put_of_get? (inPlace_of_accepts accepted) held).2]
      exact .done container
  | @write content keys leaf next result rest written _ ih =>
      have same : containerFor key container = container := by
        cases container with
        | null => contradiction
        | bool | number | string | list | map | record => rfl
      have wrote (travelled : List String) :
          setAt delimiter travelled container (key :: keys) leaf =
            { root := container.put key next } := by
        have below := written (travelled ++ [key])
        rw [← held] at below
        have step := @setAt_of_accepts delimiter _ travelled keys container key
          (same.symm ▸ accepted) leaf
        simp only [same, valueUnder, below] at step
        exact step
      have onward := ih (accepts_put accepted next) (get?_put accepted next)
      rw [put_put accepted] at onward
      exact .write wrote onward

theorem of_emptyFor (nonempty : leaves ≠ []) (made : emptyFor key = container)
    (fills : Fills delimiter (some container) (Value.under key leaves ++ others) result) :
    Fills delimiter none (Value.under key leaves ++ others) result := by
  subst made
  cases leaves with
  | nil => contradiction
  | cons leaf rest =>
      cases fills with
      | write written onward => exact .write written onward

theorem leaves_ne_nil (fills : Fills delimiter none leaves result) : leaves ≠ [] := by
  intro empty
  cases fills with
  | write => contradiction

theorem items {done rest : List Value} (bounded : (done ++ rest).length ≤ UInt64.size)
    (each : ∀ item ∈ rest, Fills delimiter none item.leaves item) :
    Fills delimiter (some (list done)) (itemLeaves done.length rest) (list (done ++ rest)) := by
  induction rest generalizing done with
  | nil =>
      rw [List.append_nil]
      exact .done (list done)
  | cons item rest ih =>
      have inside : done.length < UInt64.size := by
        rw [List.length_append, List.length_cons] at bounded
        omega
      have found : index? (toString done.length) = some done.length := index?_toString inside
      have absent : (list done).get? (toString done.length) = none := by
        rw [get?, found, Option.bind_some, List.getElem?_eq_none (Nat.le_refl _)]
      have accepted : (list done).accepts (toString done.length) := by
        rw [accepts, found]
        exact decide_eq_true (Nat.le_refl _)
      have grown : (list done).put (toString done.length) item = list (done ++ [item]) := by
        rw [put_list found (Nat.le_refl _), itemsAfter, if_neg (Nat.lt_irrefl _)]
      have here := under accepted (absent ▸ each item (by simp))
      rw [grown] at here
      have onward := @ih (done ++ [item]) (by simpa using bounded)
        fun later member => each later (List.mem_cons_of_mem _ member)
      rw [List.length_append, List.append_assoc] at onward
      exact here.append onward

theorem entries {done rest : List (String × Value)} (distinct : Entries.Distinct (done ++ rest))
    (each : ∀ entry ∈ rest, Fills delimiter none entry.2.leaves entry.2) :
    Fills delimiter (some (map done)) (entryLeaves rest) (map (done ++ rest)) := by
  induction rest generalizing done with
  | nil =>
      rw [List.append_nil]
      exact .done (map done)
  | cons entry rest ih =>
      obtain ⟨key, value⟩ := entry
      have fresh : key ∉ Entries.names done := by
        intro present
        rw [Entries.Distinct, Entries.names, List.map_append] at distinct
        exact (List.nodup_append.mp distinct).2.2 key present key List.mem_cons_self rfl
      have absent : (map done).get? key = none := Entries.get?_of_not_mem fresh
      have grown : (map done).put key value = map (done ++ [(key, value)]) := by
        rw [put_map, Entries.insert_of_not_mem fresh]
      have accepted : (map done).accepts key := rfl
      have here := under accepted (absent ▸ each (key, value) (by simp))
      rw [grown] at here
      have onward := @ih (done ++ [(key, value)]) (by simpa using distinct)
        fun later member => each later (List.mem_cons_of_mem _ member)
      rw [List.append_assoc] at onward
      exact here.append onward

end Fills

theorem Addressable.fills {value : Value} (addressable : value.Addressable)
    (delimiter : Delimiter) : Fills delimiter none value.leaves value := by
  induction value using children_induction with
  | step value ih =>
      cases value with
      | list items =>
          have each : ∀ item ∈ items, Fills delimiter none item.leaves item := by
            intro item member
            obtain ⟨key, child⟩ := mem_children_list member
            exact ih (key, item) child (itemsAddressable_iff.mp addressable.2 item member)
          cases items with
          | nil => exact .write (fun _ => rfl) (.done (list []))
          | cons item rest =>
              have filled := @Fills.items _ delimiter [] (item :: rest) addressable.1 each
              exact .of_emptyFor (each item (by simp)).leaves_ne_nil rfl filled
      | map entries =>
          have each : ∀ entry ∈ entries, Fills delimiter none entry.2.leaves entry.2 :=
            fun entry member =>
              ih entry member (entriesAddressable_iff.mp addressable.2 entry member).2
          cases entries with
          | nil => exact .write (fun _ => rfl) (.done (map []))
          | cons entry rest =>
              have unindexed := (entriesAddressable_iff.mp addressable.2 entry (by simp)).1.2
              have made : emptyFor entry.1 = map [] := by rw [emptyFor, unindexed]; rfl
              have filled := @Fills.entries _ delimiter [] (entry :: rest) addressable.1 each
              exact .of_emptyFor (each entry (by simp)).leaves_ne_nil made filled
      | null | bool | number | string => exact .write (fun _ => rfl) (.done _)
      | record => exact absurd addressable id

end Reshape.Value
