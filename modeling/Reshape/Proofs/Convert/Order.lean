import Mathlib.Data.List.Perm.Basic
import Reshape.Proofs.Convert.Observation
import Reshape.Proofs.Convert.Outputs
import Reshape.Proofs.Write.Growth
/-!
The order of a schema's entries. Where the output paths are names of map entries and none
goes on where another ends, a conversion succeeds if every source can be looked up and every
output path is literal, whatever the order of the entries; the order shows in that of the
keys alone.
-/

namespace Reshape

/-- An output path that is not empty and has no list position among its keys. -/
structure Delimiter.Named (delimiter : Delimiter) (path : String) : Prop where
  nonempty : path ≠ ""
  plain : ∀ key, .key key ∈ delimiter.split path → index? key = none

theorem Delimiter.Named.of_split {delimiter : Delimiter} {path : String} {names : List String}
    (named : delimiter.Named path) (split : delimiter.split path = names.map .key) :
    ∀ name ∈ names, index? name = none := by
  intro name member
  apply named.plain name
  rw [split]
  exact List.mem_map_of_mem member

namespace Converter

open Value

variable {converter : Converter} {lookup : Lookup} {source result : Value} {strict : Bool}
  {entries : List (String × Value)} {writes done : List (List String × Value)}

/-- The write that an entry comes to: its output path is literal, and its source is found. -/
structure Resolves (converter : Converter) (lookup : Lookup) (source : Value) (strict : Bool)
    (entry : String × Value) (write : List String × Value) : Prop where
  names : converter.delimiter.split entry.1 = write.1.map .key
  value : lookup source entry.2 strict = pure write.2

theorem Resolves.unique {entry : String × Value} {first second : List String × Value}
    (one : converter.Resolves lookup source strict entry first)
    (other : converter.Resolves lookup source strict entry second) : first = second := by
  have names : first.1 = second.1 :=
    List.map_injective_iff.mpr (fun _ _ same => Token.key.inj same) (one.names.symm.trans other.names)
  have values : first.2 = second.2 := Attempt.pure_eq_pure_iff.mp (one.value.symm.trans other.value)
  exact Prod.ext names values

theorem Resolves.exists_entry
    (each : List.Forall₂ (converter.Resolves lookup source strict) entries writes)
    {write : List String × Value} (member : write ∈ writes) :
    ∃ entry ∈ entries, converter.Resolves lookup source strict entry write := by
  induction each with
  | nil => contradiction
  | cons here _ ih =>
      rcases List.mem_cons.mp member with rfl | later
      · exact ⟨_, List.mem_cons_self, here⟩
      · obtain ⟨entry, inside, resolved⟩ := ih later
        exact ⟨entry, List.mem_cons_of_mem _ inside, resolved⟩

theorem Resolves.parted
    (each : List.Forall₂ (converter.Resolves lookup source strict) entries writes)
    (apart : entries.Pairwise fun first second => converter.delimiter.Apart first.1 second.1) :
    writes.Pairwise fun first second => Parted first.1 second.1 := by
  induction each with
  | nil => exact .nil
  | cons here after ih =>
      obtain ⟨apartHere, apartAfter⟩ := List.pairwise_cons.mp apart
      refine List.pairwise_cons.mpr ⟨fun write member => ?_, ih apartAfter⟩
      obtain ⟨entry, inside, resolved⟩ := exists_entry after member
      exact (apartHere entry inside).parted here.names resolved.names

section

variable [Record.Accessors]

/-- A conversion ends in what the writes of its entries grow, and fails only if one of the
entries comes to no write. -/
theorem convertEntries_eq_pure_iff
    (named : ∀ entry ∈ entries, converter.delimiter.Named entry.1)
    (apart : entries.Pairwise fun first second => converter.delimiter.Apart first.1 second.1)
    (before : ∀ write ∈ done, ∀ entry ∈ entries, ∀ names,
      converter.delimiter.split entry.1 = names.map .key → Parted write.1 names) :
    converter.convertEntries lookup source strict ((map []).growAll done) entries = pure result ↔
      ∃ writes, List.Forall₂ (converter.Resolves lookup source strict) entries writes ∧
        result = (map []).growAll (done ++ writes) := by
  induction entries generalizing done with
  | nil =>
      rw [convertEntries, Attempt.pure_eq_pure_iff]
      constructor
      · rintro rfl
        exact ⟨[], .nil, by rw [List.append_nil]⟩
      · rintro ⟨_, ⟨⟩, rfl⟩
        rw [List.append_nil]
  | cons entry rest ih =>
      obtain ⟨target, spec⟩ := entry
      obtain ⟨here, others⟩ := List.forall_mem_cons.mp named
      obtain ⟨apartHere, apartAfter⟩ := List.pairwise_cons.mp apart
      have step {names : List String} (split : converter.delimiter.split target = names.map .key)
          (value : Value) :
          ((map []).growAll done).writeSet converter.delimiter (.text target) value =
            { root := (map []).growAll (done ++ [(names, value)]) } := by
        have clear : ((map []).growAll done).Clear names := clear_growAll rfl rfl
          fun write member => before write member _ List.mem_cons_self names split
        have parsed : PathForm.parse converter.delimiter (.text target) = .ok (names.map .key) :=
          congrArg Except.ok split
        rw [writeSet_keys parsed, setAt_of_clear (here.of_split split) clear, growAll,
          growAll, List.foldl_append]
        rfl
      have after {names : List String} (split : converter.delimiter.split target = names.map .key)
          (value : Value) : ∀ write ∈ done ++ [(names, value)], ∀ entry ∈ rest, ∀ others,
            converter.delimiter.split entry.1 = others.map .key → Parted write.1 others := by
        intro write member entry inside others otherSplit
        rcases List.mem_append.mp member with earlier | same
        · exact before write earlier entry (List.mem_cons_of_mem _ inside) others otherSplit
        · cases List.mem_singleton.mp same
          exact (apartHere entry inside).parted split otherSplit
      constructor
      · intro ended
        obtain ⟨value, found, ⟨empty, _⟩ | ⟨_, written, onward⟩⟩ := convertEntries_cons_eq_pure ended
        · exact absurd empty here.nonempty
        · obtain ⟨names, parsed, _⟩ := writeSet_of_success written
          have split : converter.delimiter.split target = names.map .key := Except.ok.inj parsed
          rw [step split, ih others apartAfter (after split value)] at onward
          obtain ⟨writes, each, grown⟩ := onward
          exact ⟨(names, value) :: writes, .cons ⟨split, found⟩ each, by simpa using grown⟩
      · rintro ⟨_, _ | ⟨resolved, each⟩, rfl⟩
        rename_i write writes
        obtain ⟨names, value⟩ := write
        have split := resolved.names
        rw [convertEntries_cons_of_written resolved.value here.nonempty (step split value) rfl,
          ih others apartAfter (after split value)]
        exact ⟨writes, each, by simp⟩

theorem convertWithin_eq_pure_iff {schema : Schema} {depth : Nat}
    (named : ∀ entry ∈ schema.entries, converter.delimiter.Named entry.1)
    (apart : schema.entries.Pairwise fun first second =>
      converter.delimiter.Apart first.1 second.1) :
    converter.convertWithin depth source schema strict = pure result ↔
      ∃ writes, List.Forall₂ (converter.Resolves (converter.lookupWithin depth) source strict)
        schema.entries writes ∧ result = (map []).growAll writes :=
  convertEntries_eq_pure_iff named apart fun _ (member : _ ∈ []) => nomatch member

variable [Record.Lawful]

theorem Resolves.wellFormed (builtIn : converter.filters.BuiltIn) {depth : Nat}
    (sourceFormed : source.WellFormed) {entry : String × Value} {write : List String × Value}
    (entryFormed : entry.2.WellFormed)
    (resolved : converter.Resolves (converter.lookupWithin depth) source strict entry write) :
    write.2.WellFormed :=
  holds_of_lookupWithin observation_wellFormed builtIn sourceFormed entryFormed resolved.value

/-- The order of the entries shows in nothing but the order of the keys. -/
theorem convert_permuted (builtIn : converter.filters.BuiltIn) (sourceFormed : source.WellFormed)
    {schema permuted : Schema} (schemaFormed : schema.toValue.WellFormed)
    (named : ∀ entry ∈ schema.entries, converter.delimiter.Named entry.1)
    (apart : schema.entries.Pairwise fun first second =>
      converter.delimiter.Apart first.1 second.1)
    (permutation : schema.entries.Perm permuted.entries) (depth : Nat) (strict : Bool) :
    ((∃ result, converter.convertWithin depth source schema strict = pure result) ↔
      ∃ result, converter.convertWithin depth source permuted strict = pure result) ∧
    ∀ result other, converter.convertWithin depth source schema strict = pure result →
      converter.convertWithin depth source permuted strict = pure other → result.same other := by
  have permutedNamed : ∀ entry ∈ permuted.entries, converter.delimiter.Named entry.1 :=
    fun entry member => named entry (permutation.mem_iff.mpr member)
  have permutedApart : permuted.entries.Pairwise fun first second =>
      converter.delimiter.Apart first.1 second.1 :=
    (permutation.pairwise_iff fun apart => ⟨apart.2, apart.1⟩).mp apart
  simp only [convertWithin_eq_pure_iff named apart,
    convertWithin_eq_pure_iff permutedNamed permutedApart]
  constructor
  · constructor
    · rintro ⟨_, writes, each, _⟩
      obtain ⟨others, found, _⟩ := List.perm_comp_forall₂ permutation.symm each
      exact ⟨_, others, found, rfl⟩
    · rintro ⟨_, writes, each, _⟩
      obtain ⟨others, found, _⟩ := List.perm_comp_forall₂ permutation each
      exact ⟨_, others, found, rfl⟩
  · rintro _ _ ⟨writes, each, rfl⟩ ⟨others, found, rfl⟩
    have reordered : writes.Perm others :=
      List.rel_perm_imp (fun _ _ _ one other => one.unique other) each found permutation
    have formed : ∀ write ∈ writes, write.2.WellFormed := by
      intro write member
      obtain ⟨entry, inside, resolved⟩ := Resolves.exists_entry each member
      exact resolved.wellFormed builtIn sourceFormed
        (entriesWellFormed_iff.mp schemaFormed.2 entry inside)
    exact same_growAll reordered (Resolves.parted each apart) formed rfl ⟨List.nodup_nil, trivial⟩

end

/-- Two entries write below one key, which either of them may create. -/
theorem convert_permuted_nested :
    let source : Value := .map [("k", .bool false)]
    let schema : Schema :=
      { entries := [("a.x", .null), ("b", constant (.bool true)), ("a.y", constant .null)] }
    let permuted : Schema :=
      { entries := [("a.y", constant .null), ("a.x", .null), ("b", constant (.bool true))] }
    let result : Value := .map [("a", .map [("x", source), ("y", .null)]), ("b", .bool true)]
    let other : Value := .map [("a", .map [("y", .null), ("x", source)]), ("b", .bool true)]
    let converter : Converter := { filters := .standard }
    converter.convertWithin 1 source schema true = pure result ∧
      converter.convertWithin 1 source permuted true = pure other ∧ result.same other := by
  intro source schema permuted result other converter
  have given (value : Value) : converter.lookupWithin 1 source (constant value) true = pure value :=
    lookupWithin_constant Registry.find?_standard_const 0 rfl value true
  have whole : converter.lookupWithin 1 source .null true = pure source :=
    lookupWithin_null 0 source true
  have converted : converter.convertWithin 1 source schema true = pure result := by
    have first : (map []).writeSet .dot (.text "a.x") source =
        { root := map [("a", map [("x", source)])] } := rfl
    have second : (map [("a", map [("x", source)])]).writeSet .dot (.text "b") (.bool true) =
        { root := map [("a", map [("x", source)]), ("b", .bool true)] } := rfl
    have third : (map [("a", map [("x", source)]), ("b", .bool true)]).writeSet .dot (.text "a.y")
        .null = { root := result } := rfl
    simp only [convertWithin, schema]
    rw [convertEntries_cons_of_written whole (by decide) first rfl,
      convertEntries_cons_of_written (given _) (by decide) second rfl,
      convertEntries_cons_of_written (given _) (by decide) third rfl]
    rfl
  have reordered : converter.convertWithin 1 source permuted true = pure other := by
    have first : (map []).writeSet .dot (.text "a.y") .null =
        { root := map [("a", map [("y", .null)])] } := rfl
    have second : (map [("a", map [("y", .null)])]).writeSet .dot (.text "a.x") source =
        { root := map [("a", map [("y", .null), ("x", source)])] } := rfl
    have third : (map [("a", map [("y", .null), ("x", source)])]).writeSet .dot (.text "b")
        (.bool true) = { root := other } := rfl
    simp only [convertWithin, permuted]
    rw [convertEntries_cons_of_written (given _) (by decide) first rfl,
      convertEntries_cons_of_written whole (by decide) second rfl,
      convertEntries_cons_of_written (given _) (by decide) third rfl]
    rfl
  have outer : Delimiter.dot.split "b" = [.key "b"] := rfl
  have left : Delimiter.dot.split "a.x" = [.key "a", .key "x"] := rfl
  have right : Delimiter.dot.split "a.y" = [.key "a", .key "y"] := rfl
  have sourceFormed : source.WellFormed := by
    simp [source, WellFormed, EntriesWellFormed, Entries.Distinct, Entries.names]
  have schemaFormed : schema.toValue.WellFormed := by
    simp [Schema.toValue, schema, constant, WellFormed, EntriesWellFormed, AllWellFormed,
      Entries.Distinct, Entries.names]
  have unindexed : index? "a" = none ∧ index? "b" = none ∧ index? "x" = none ∧ index? "y" = none := by
    decide
  have named : ∀ entry ∈ schema.entries, Delimiter.dot.Named entry.1 := by
    intro entry member
    simp only [schema, List.mem_cons, List.not_mem_nil, or_false] at member
    rcases member with rfl | rfl | rfl
    · exact ⟨by decide, by simp [left, unindexed]⟩
    · exact ⟨by decide, by simp [outer, unindexed]⟩
    · exact ⟨by decide, by simp [right, unindexed]⟩
  have apart : schema.entries.Pairwise fun first second =>
      Delimiter.dot.Apart first.1 second.1 := by
    simp [schema, Delimiter.Apart, outer, left, right]
  have permutation : schema.entries.Perm permuted.entries := List.perm_append_singleton _ [_, _]
  exact ⟨converted, reordered, (convert_permuted Registry.standard_builtIn sourceFormed schemaFormed
    named apart permutation 1 true).2 result other converted reordered⟩

end Converter

end Reshape
