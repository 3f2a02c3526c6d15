import Mathlib.Data.List.Perm.Subperm
import Reshape.Proofs.Read.Descent
import Reshape.Proofs.Value.Equality
/-!
Equality of values as an equivalence that reading respects. Maps are compared one way round
only, but where no two entries are named alike, entries that are all found again among as many
others leave none of these out. What can be seen under a key is in the view of a value, so equal
values hold equal values under every key, and paths of keys lead to equal values.
-/

namespace Reshape

namespace View

variable {lefts rights : List (String × View)}

theorem number_same_symm {left right : Number} (held : left.same right) : right.same left := by
  cases left <;> cases right <;> simp_all [Number.same, Binary64.same]

theorem number_same_trans {first second third : Number} (held : first.same second)
    (onward : second.same third) : first.same third := by
  cases first <;> cases second <;> cases third <;> simp_all [Number.same, Binary64.same]

theorem same_map_iff : (map lefts).same (map rights) ↔
    lefts.length = rights.length ∧ sameEntries lefts rights := by simp [same]

theorem same_record_iff {leftName rightName : String} :
    (record leftName lefts).same (record rightName rights) ↔
      leftName = rightName ∧ lefts.length = rights.length ∧ sameEntries lefts rights := by
  simp [same, and_assoc]

theorem names_perm (distinct : Entries.Distinct lefts) (lengths : lefts.length = rights.length)
    (held : sameEntries lefts rights) : (Entries.names lefts).Perm (Entries.names rights) := by
  have listed : Entries.names lefts ⊆ Entries.names rights := by
    intro name member
    obtain ⟨entry, inside, rfl⟩ := List.mem_map.mp member
    obtain ⟨right, found, _⟩ := sameEntries_iff.mp held entry inside
    exact List.mem_map.mpr ⟨_, Entries.mem_of_get? found, rfl⟩
  exact (List.subperm_of_subset distinct listed).perm_of_length_le (by simp [Entries.names, lengths])

theorem sameEntries_flip (distinct : Entries.Distinct lefts)
    (lengths : lefts.length = rights.length) (held : sameEntries lefts rights)
    (flips : ∀ entry ∈ lefts, ∀ right, entry.2.same right → right.same entry.2) :
    sameEntries rights lefts := by
  have permuted := names_perm distinct lengths held
  have others : Entries.Distinct rights := permuted.nodup_iff.mp distinct
  rw [sameEntries_iff]
  rintro ⟨name, right⟩ member
  have listed : name ∈ Entries.names lefts := permuted.mem_iff.mpr (List.mem_map_of_mem member)
  obtain ⟨left, found⟩ := Entries.exists_get?_of_mem_names listed
  have inside : (name, left) ∈ lefts := Entries.mem_of_get? found
  obtain ⟨other, again, same⟩ := sameEntries_iff.mp held _ inside
  rw [Entries.get?_of_mem others member, Option.some.injEq] at again
  exact ⟨left, found, flips _ inside right (again ▸ same)⟩

mutual

theorem same_symm : (left : View) → left.WellFormed → (right : View) → left.same right →
    right.same left
  | .null, _, right, held => by cases right <;> simp_all [same]
  | .bool value, _, right, held => by cases right <;> simp_all [same]
  | .string value, _, right, held => by cases right <;> simp_all [same]
  | .number value, _, right, held => by
      cases right with
      | number other =>
          rw [same] at held ⊢
          exact number_same_symm held
      | null | bool | string | list | map | record => simp [same] at held
  | .list items, each, right, held => by
      cases right with
      | list others =>
          rw [same] at held ⊢
          exact sameItems_symm items each others held
      | null | bool | number | string | map | record => simp [same] at held
  | .map entries, ⟨distinct, each⟩, right, held => by
      cases right with
      | map others =>
          obtain ⟨lengths, found⟩ := same_map_iff.mp held
          exact same_map_iff.mpr ⟨lengths.symm,
            sameEntries_flip distinct lengths found (flips_entries entries each)⟩
      | null | bool | number | string | list | record => simp [same] at held
  | .record typeName entries, ⟨distinct, each⟩, right, held => by
      cases right with
      | record other others =>
          obtain ⟨named, lengths, found⟩ := same_record_iff.mp held
          exact same_record_iff.mpr ⟨named.symm, lengths.symm,
            sameEntries_flip distinct lengths found (flips_entries entries each)⟩
      | null | bool | number | string | list | map => simp [same] at held

theorem sameItems_symm : (lefts : List View) → AllWellFormed lefts → (rights : List View) →
    sameItems lefts rights → sameItems rights lefts
  | [], _, [], _ => rfl
  | left :: lefts, ⟨first, others⟩, right :: rights, held => by
      rw [sameItems, Bool.and_eq_true] at held ⊢
      exact ⟨same_symm left first right held.1, sameItems_symm lefts others rights held.2⟩

theorem flips_entries : (entries : List (String × View)) → EntriesWellFormed entries →
    ∀ entry ∈ entries, ∀ right, entry.2.same right → right.same entry.2
  | [], _ => by simp
  | (name, view) :: rest, ⟨first, others⟩ =>
      List.forall_mem_cons.mpr ⟨same_symm view first, flips_entries rest others⟩

end

mutual

theorem same_trans : (first second third : View) → first.same second → second.same third →
    first.same third
  | .null, second, third, held, onward => by
      cases second with
      | null => exact onward
      | bool | number | string | list | map | record => simp [same] at held
  | .bool value, second, third, held, onward => by
      cases second <;> cases third <;> simp_all [same]
  | .string value, second, third, held, onward => by
      cases second <;> cases third <;> simp_all [same]
  | .number value, second, third, held, onward => by
      cases second <;> cases third <;> simp only [same, Bool.false_eq_true] at held onward ⊢
      exact number_same_trans held onward
  | .list items, second, third, held, onward => by
      cases second <;> cases third <;> simp only [same, Bool.false_eq_true] at held onward ⊢
      exact sameItems_trans items _ _ held onward
  | .map entries, second, third, held, onward => by
      cases second <;> cases third <;>
        simp only [same, Bool.false_eq_true, Bool.and_eq_true, beq_iff_eq] at held onward ⊢
      exact ⟨held.1.trans onward.1, sameEntries_trans entries _ _ held.2 onward.2⟩
  | .record typeName entries, second, third, held, onward => by
      cases second <;> cases third <;>
        simp only [same, Bool.false_eq_true, Bool.and_eq_true, beq_iff_eq] at held onward ⊢
      exact ⟨⟨held.1.1.trans onward.1.1, held.1.2.trans onward.1.2⟩,
        sameEntries_trans entries _ _ held.2 onward.2⟩

theorem sameItems_trans : (firsts seconds thirds : List View) → sameItems firsts seconds →
    sameItems seconds thirds → sameItems firsts thirds
  | [], [], _, _, onward => onward
  | first :: firsts, second :: seconds, third :: thirds, held, onward => by
      rw [sameItems, Bool.and_eq_true] at held onward ⊢
      exact ⟨same_trans first second third held.1 onward.1,
        sameItems_trans firsts seconds thirds held.2 onward.2⟩

theorem sameEntries_trans : (firsts seconds thirds : List (String × View)) →
    sameEntries firsts seconds → sameEntries seconds thirds → sameEntries firsts thirds
  | [], _, _, _, _ => rfl
  | (name, first) :: rest, seconds, thirds, held, onward => by
      obtain ⟨⟨second, found, here⟩, later⟩ := List.forall_mem_cons.mp (sameEntries_iff.mp held)
      obtain ⟨third, again, there⟩ := sameEntries_iff.mp onward _ (Entries.mem_of_get? found)
      rw [sameEntries, again]
      exact Bool.and_eq_true_iff.mpr ⟨same_trans first second third here there,
        sameEntries_trans rest seconds thirds (sameEntries_iff.mpr later) onward⟩

end

theorem forall₂_of_sameItems : (lefts rights : List View) → sameItems lefts rights →
    List.Forall₂ (fun left right => left.same right) lefts rights
  | [], [], _ => .nil
  | left :: lefts, right :: rights, held => by
      rw [sameItems, Bool.and_eq_true] at held
      exact .cons held.1 (forall₂_of_sameItems lefts rights held.2)

theorem rel_get?_entries (distinct : Entries.Distinct lefts) (lengths : lefts.length = rights.length)
    (held : sameEntries lefts rights) (key : String) :
    Option.Rel (fun left right => left.same right) (Entries.get? key lefts)
      (Entries.get? key rights) := by
  cases found : Entries.get? key lefts with
  | some left =>
      obtain ⟨right, again, same⟩ := sameEntries_iff.mp held _ (Entries.mem_of_get? found)
      rw [again]
      exact .some same
  | none =>
      have unlisted : key ∉ Entries.names rights := by
        rw [← (names_perm distinct lengths held).mem_iff]
        intro listed
        obtain ⟨left, present⟩ := Entries.exists_get?_of_mem_names listed
        simp [found] at present
      rw [Entries.get?_of_not_mem unlisted]
      exact .none

theorem rel_get? {left right : View} (wellFormed : left.WellFormed) (held : left.same right)
    (key : String) :
    Option.Rel (fun found other => found.same other) (left.get? key) (right.get? key) := by
  cases left <;> cases right <;> simp only [same, Bool.false_eq_true] at held
  case list.list items others =>
      have each := forall₂_of_sameItems items others held
      rw [get?, get?]
      cases index? key with
      | none => exact .none
      | some index => exact Observation.rel_getElem? each index
  case map.map entries others =>
      obtain ⟨lengths, found⟩ := same_map_iff.mp (by simpa only [same] using held)
      exact rel_get?_entries wellFormed.1 lengths found key
  case record.record named entries other others =>
      obtain ⟨_, lengths, found⟩ := same_record_iff.mp (by simpa only [same] using held)
      exact rel_get?_entries wellFormed.1 lengths found key
  all_goals exact .none

theorem typeName_of_same {left right : View} (held : left.same right) :
    left.typeName = right.typeName := by
  cases left <;> cases right <;> simp only [same, Bool.false_eq_true] at held <;> rfl

end View

namespace Value

section

variable [Record.Accessors] {left right : Value}

theorem same_trans {first second third : Value} (held : first.same second)
    (onward : second.same third) : first.same third :=
  View.same_trans first.view second.view third.view held onward

theorem typeName_of_same (held : left.same right) : left.typeName = right.typeName := by
  rw [← typeName_view left, ← typeName_view right]
  exact View.typeName_of_same held

theorem checkRoot_of_same (held : left.same right) : left.checkRoot = right.checkRoot := by
  have named := typeName_of_same held
  have scalar : left.isScalar = right.isScalar := by
    cases left <;> cases right <;> simp [typeName] at named <;> rfl
  rw [checkRoot, checkRoot, scalar, named]

variable [Record.Lawful]

theorem same_symm (wellFormed : left.WellFormed) (held : left.same right) : right.same left :=
  View.same_symm left.view (wellFormed_view left wellFormed) right.view held

theorem rel_get?_of_same (wellFormed : left.WellFormed) (other : right.WellFormed)
    (held : left.same right) (key : String) :
    Option.Rel (fun found partner => found.WellFormed ∧ partner.WellFormed ∧ found.same partner)
      (left.get? key) (right.get? key) := by
  have seen := View.rel_get? (wellFormed_view left wellFormed) held key
  rw [get?_view wellFormed, get?_view other] at seen
  cases here : left.get? key with
  | none =>
      cases there : right.get? key with
      | none => exact .none
      | some partner => simp [here, there] at seen
  | some found =>
      cases there : right.get? key with
      | none => simp [here, there] at seen
      | some partner =>
          have same : found.view.same partner.view := by simpa [here, there] using seen
          exact .some ⟨wellFormed.get? here, other.get? there, same⟩

/-- Equality is an equivalence, and reading along keys respects it: in equal values every path
without groups and merges leads to equal values or fails with the same error. -/
theorem same_congruence :
    Equivalence (fun left right : { value : Value // value.WellFormed } =>
      left.val.same right.val = true) ∧
    ∀ left right : Value, left.WellFormed → right.WellFormed → left.same right →
      ∀ delimiter strict path,
        (∀ tokens, PathForm.parse delimiter path = .ok tokens →
          ∀ token ∈ tokens, token ≠ .wildcard ∧ token ≠ .flatten) →
        left.checkRoot = right.checkRoot ∧
        Alike (fun found other => found.same other) (left.read delimiter strict path)
          (right.read delimiter strict path) := by
  refine ⟨⟨fun value => same_self value.val value.property,
    fun held => same_symm (Subtype.property _) held, same_trans⟩, ?_⟩
  intro left right wellFormed other held delimiter strict path plain
  refine ⟨checkRoot_of_same held, ?_⟩
  let related (found partner : Value) : Prop :=
    found.WellFormed ∧ partner.WellFormed ∧ found.same partner
  have alike : Alike related (left.read delimiter strict path) (right.read delimiter strict path) :=
    Simulation.alike_read ⟨trivial, trivial, rfl⟩ fun tokens parsed =>
      alike_resolve_plain
        (fun same key => rel_get?_of_same same.1 same.2.1 same.2.2 key)
        (plain tokens parsed) ⟨wellFormed, other, held⟩ delimiter strict
  revert alike
  cases left.read delimiter strict path <;> cases right.read delimiter strict path
  · exact id
  · exact id
  · exact id
  · exact fun same => same.2.2

end

/-- A record of a shape that is called as dynamic records are is seen as one of them, and
what stands in it is read past its private field. -/
theorem same_congruence_in_record :
    let shape : Shape :=
      { name := "dynamic", fields := [("at", ⟨.shown, none, none⟩), ("key", ⟨.hidden, none, none⟩)] }
    let point (x y : String × Value) : Value := .map [x, y]
    let left : Value := .record (some shape)
      [("key", .bool true), ("at", point ("x", .null) ("y", .bool true))]
    let right : Value := .record none [("at", point ("y", .bool true) ("x", .null))]
    left.WellFormed ∧ right.WellFormed ∧ left.same right ∧
      PathForm.parse .dot (.text "at") = .ok [.key "at"] ∧
      Alike (fun found other => found.same other) (left.read .dot true (.text "at"))
        (right.read .dot true (.text "at")) := by
  intro shape point left right
  have wellFormed : left.WellFormed := by
    simp [left, shape, point, WellFormed, EntriesWellFormed, Entries.Distinct, Entries.names]
  have other : right.WellFormed := by
    simp [right, point, WellFormed, EntriesWellFormed, Entries.Distinct, Entries.names]
  have held : left.same right := by decide
  have parsed : PathForm.parse .dot (.text "at") = .ok [.key "at"] := rfl
  refine ⟨wellFormed, other, held, parsed, ?_⟩
  refine (same_congruence.2 left right wellFormed other held .dot true (.text "at") ?_).2
  intro tokens spelled
  rw [parsed] at spelled
  cases spelled
  decide

end Value

end Reshape
