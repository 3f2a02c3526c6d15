import Reshape.Filter.Standard
import Reshape.Proofs.Convert.Steps
import Reshape.Proofs.Read.Strictness
import Reshape.Proofs.Write.Fill

namespace Reshape

namespace Value

/-- The schema that maps each leaf of a document to itself. -/
def leafSchema (document : Value) : Schema :=
  { entries := document.leaves.map fun (keys, _) =>
      (Delimiter.dot.joinKeys keys, .string (Delimiter.dot.joinKeys keys)) }

variable [Record.Accessors] {root value : Value} {keys : List String}

theorem read_of_at? {delimiter : Delimiter} {path : PathForm}
    (parsed : path.parse delimiter = .ok (keys.map .key)) (found : root.at? keys = some value)
    (strict : Bool) : root.read delimiter strict path = .ok value := by
  cases strict with
  | true => exact (read_strict_keys_iff delimiter root keys parsed).mpr found
  | false =>
      have lenient := read_eq_of_resolve parsed (resolve_keys_lenient delimiter root keys)
      rwa [found] at lenient

/-- A path that can be written, and that leads to its leaf. -/
structure LeafPath (document : Value) (leaf : List String × Value) : Prop where
  nonempty : leaf.1 ≠ []
  segments : ∀ key ∈ leaf.1, Segment key
  found : document.at? leaf.1 = some leaf.2

theorem LeafPath.parsed {document : Value} {leaf : List String × Value}
    (path : LeafPath document leaf) :
    PathForm.parse .dot (.text (Delimiter.dot.joinKeys leaf.1)) = .ok (leaf.1.map .key) :=
  congrArg Except.ok (Delimiter.split_joinKeys path.segments)

theorem LeafPath.visible {document : Value} {leaf : List String × Value}
    (path : LeafPath document leaf) : Delimiter.dot.joinKeys leaf.1 ≠ "" :=
  Delimiter.joinKeys_ne_empty path.nonempty path.segments

theorem Addressable.leafPath {entry : String × Value} {rest : List (String × Value)}
    (addressable : (map (entry :: rest)).Addressable) {leaf : List String × Value}
    (member : leaf ∈ (map (entry :: rest)).leaves) : LeafPath (map (entry :: rest)) leaf := by
  obtain ⟨segments, found⟩ := addressable.leaf member
  refine ⟨?_, segments, found⟩
  have parent : (map (entry :: rest)).children ≠ [] := List.cons_ne_nil entry rest
  rw [leaves_of_children parent, List.mem_flatMap] at member
  obtain ⟨child, _, listed⟩ := member
  obtain ⟨_, _, rfl⟩ := List.mem_map.mp listed
  exact List.cons_ne_nil _ _

theorem Addressable.distinct_leafSchema {entries : List (String × Value)}
    (addressable : (map entries).Addressable) : (map entries).leafSchema.entries.Distinct := by
  have names : (map entries).leafSchema.entries.names =
      ((map entries).leaves.map (·.1)).map Delimiter.dot.joinKeys := by
    rw [Entries.names, leafSchema, List.map_map, List.map_map]
    rfl
  rw [Entries.Distinct, names]
  cases entries with
  | nil => exact List.nodup_singleton _
  | cons entry rest =>
      apply addressable.distinct_leaves.map_on
      intro keys member others othersMember same
      obtain ⟨first, firstInside, rfl⟩ := List.mem_map.mp member
      obtain ⟨second, secondInside, rfl⟩ := List.mem_map.mp othersMember
      have firstPath := addressable.leafPath firstInside
      have secondPath := addressable.leafPath secondInside
      exact Delimiter.joinKeys_injective firstPath.segments secondPath.segments same

end Value

namespace Converter

open Value

section

variable [Record.Accessors] {converter : Converter} {lookup : Lookup} {source output result : Value}
  {strict : Bool}

theorem convertEntries_of_fills {leaves : List (List String × Value)}
    (fills : Fills converter.delimiter (some output) leaves result)
    (paths : ∀ leaf ∈ leaves, converter.delimiter.joinKeys leaf.1 ≠ "" ∧
      PathForm.parse converter.delimiter (.text (converter.delimiter.joinKeys leaf.1)) =
        .ok (leaf.1.map .key))
    (found : ∀ leaf ∈ leaves,
      lookup source (.string (converter.delimiter.joinKeys leaf.1)) strict = pure leaf.2) :
    converter.convertEntries lookup source strict output
        (leaves.map fun (keys, _) => (converter.delimiter.joinKeys keys,
          .string (converter.delimiter.joinKeys keys))) =
      pure result := by
  generalize held : some output = content at fills
  induction fills generalizing output with
  | done value =>
      cases held
      rfl
  | @write content keys leaf next result rest written _ ih =>
      cases held
      obtain ⟨visible, parsed⟩ := paths (keys, leaf) (by simp)
      have wrote := (writeSet_keys parsed output leaf).trans (written [])
      rw [List.map_cons, convertEntries_cons_of_written (found (keys, leaf) (by simp)) visible
        wrote rfl]
      exact ih (fun later member => paths later (List.mem_cons_of_mem _ member))
        (fun later member => found later (List.mem_cons_of_mem _ member)) rfl

/-- A document is copied by the schema of its leaves, in both modes. -/
theorem convert_leafSchema (filters : Registry) (entries : List (String × Value))
    (addressable : (map entries).Addressable) :
    let document := map entries
    let converter : Converter := { filters }
    document.leafSchema.entries.Distinct ∧
      ∀ strict, converter.convert document document.leafSchema strict = pure document := by
  intro document converter
  refine ⟨addressable.distinct_leafSchema, fun strict => ?_⟩
  cases entries with
  | nil =>
      have found : converter.lookupWithin lookupDepth (map []) (.string "") strict =
          pure (map []) := rfl
      exact convertEntries_cons_of_empty found
  | cons entry rest =>
      have each : ∀ member ∈ entry :: rest, Fills .dot none member.2.leaves member.2 :=
        fun member inside => (entriesAddressable_iff.mp addressable.2 member inside).2.fills .dot
      have fills : Fills converter.delimiter (some (map [])) document.leaves document :=
        @Fills.entries _ .dot [] (entry :: rest) addressable.1 each
      apply convertEntries_of_fills fills
      · intro leaf member
        have path := addressable.leafPath member
        exact ⟨path.visible, path.parsed⟩
      · intro leaf member
        have path := addressable.leafPath member
        exact select_of_read path.visible rfl (read_of_at? path.parsed path.found strict)

end

/-- A list in a list, a null and empty containers among the leaves. -/
theorem convert_leafSchema_nested :
    let document : Value := .map [("b", .list [.list [.null, .bool true], .list []]),
      ("a", .map [("c", .map [])])]
    let schema : Schema :=
      { entries := [("b.0.0", .string "b.0.0"), ("b.0.1", .string "b.0.1"),
          ("b.1", .string "b.1"), ("a.c", .string "a.c")] }
    let converter : Converter := { filters := .standard }
    document.Addressable ∧ document.leafSchema = schema ∧
      converter.convert document schema true = pure document ∧
      converter.convert document schema false = pure document := by
  intro document schema converter
  have outer : Segment "b" ∧ Segment "a" :=
    ⟨⟨by decide, by decide, by decide⟩, ⟨by decide, by decide, by decide⟩⟩
  have inner : Segment "c" := ⟨by decide, by decide, by decide⟩
  have rows : (list [list [null, .bool true], list []]).Addressable :=
    ⟨by decide, ⟨by decide, trivial, trivial, trivial⟩, ⟨by decide, trivial⟩, trivial⟩
  have below : (map [("c", map [])]).Addressable :=
    ⟨List.nodup_singleton _, ⟨inner, rfl⟩, ⟨List.nodup_nil, trivial⟩, trivial⟩
  have distinct : (Entries.names [("b", list [list [null, .bool true], list []]),
      ("a", map [("c", map [])])]).Nodup := by decide
  have addressable : document.Addressable :=
    ⟨distinct, ⟨outer.1, rfl⟩, rows, ⟨outer.2, rfl⟩, below, trivial⟩
  have spelled : document.leafSchema = schema := rfl
  have copied := convert_leafSchema .standard _ addressable
  exact ⟨addressable, spelled, copied.2 true, copied.2 false⟩

end Converter

end Reshape
