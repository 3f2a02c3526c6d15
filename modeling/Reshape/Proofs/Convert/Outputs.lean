import Reshape.Proofs.Convert.RecordFree
import Reshape.Proofs.Write.Lens
import Reshape.Proofs.Write.Siblings

namespace Reshape

/-- Neither output path goes on where the other ends. -/
def Delimiter.Apart (delimiter : Delimiter) (path other : String) : Prop :=
  ¬ delimiter.split path <+: delimiter.split other ∧
    ¬ delimiter.split other <+: delimiter.split path

/-- An output path that is not empty and in which no key could be a list position written
with a sign. -/
structure Delimiter.Regular (delimiter : Delimiter) (path : String) : Prop where
  nonempty : path ≠ ""
  unsigned : ∀ key, .key key ∈ delimiter.split path → Value.Unsigned key

theorem Delimiter.Regular.keys_unsigned {delimiter : Delimiter} {path : String}
    {keys : List String} (regular : delimiter.Regular path)
    (split : delimiter.split path = keys.map .key) : ∀ key ∈ keys, Value.Unsigned key := by
  intro key member
  apply regular.unsigned key
  rw [split]
  exact List.mem_map_of_mem member

structure RegularEntry (delimiter : Delimiter) (entry : String × Value) : Prop where
  target : delimiter.Regular entry.1
  recordFree : entry.2.RecordFree

theorem Schema.regular_entries {schema : Schema} {delimiter : Delimiter}
    (targets : ∀ entry ∈ schema.entries, delimiter.Regular entry.1)
    (free : schema.toValue.RecordFree) :
    ∀ entry ∈ schema.entries, RegularEntry delimiter entry := fun entry member =>
  ⟨targets entry member, Value.recordFree_map_iff.mp free entry member⟩

theorem Delimiter.Apart.parted {delimiter : Delimiter} {path other : String}
    {keys others : List String} (apart : delimiter.Apart path other)
    (split : delimiter.split path = keys.map .key)
    (otherSplit : delimiter.split other = others.map .key) : Value.Parted keys others := by
  unfold Delimiter.Apart at apart
  rw [split, otherSplit] at apart
  exact ⟨fun shorter => apart.1 (shorter.map _), fun shorter => apart.2 (shorter.map _)⟩

namespace Converter

open Value

section

variable [Record.Accessors] {converter : Converter} {lookup : Lookup} {source output result : Value}
  {strict : Bool}
  {entries : List (String × Value)}

theorem convertEntries_regular (lookupFree : lookup.KeepsRecordFree)
    (sourceFree : source.RecordFree) (outputFree : output.RecordFree) {target : String}
    {spec : Value}
    (regular : RegularEntry converter.delimiter (target, spec))
    (ended : converter.convertEntries lookup source strict output ((target, spec) :: entries) =
      pure result) :
    ∃ value keys, lookup source spec strict = pure value ∧
      converter.delimiter.split target = keys.map .key ∧
      (setAt converter.delimiter [] output keys value).failure = none ∧
      (setAt converter.delimiter [] output keys value).root.RecordFree ∧
      converter.convertEntries lookup source strict
        (setAt converter.delimiter [] output keys value).root entries = pure result := by
  obtain ⟨value, found, ⟨empty, _⟩ | ⟨_, written, others⟩⟩ := convertEntries_cons_eq_pure ended
  · exact absurd empty regular.target.nonempty
  · have valueFree := lookupFree source spec strict value sourceFree regular.recordFree found
    obtain ⟨keys, parsed, same⟩ := writeSet_of_success written
    rw [same] at written others
    exact ⟨value, keys, found, Except.ok.inj parsed, written,
      recordFree_setAt outputFree valueFree, others⟩

theorem at?_convertEntries (lookupFree : lookup.KeepsRecordFree) (sourceFree : source.RecordFree)
    (outputFree : output.RecordFree)
    (regular : ∀ entry ∈ entries, RegularEntry converter.delimiter entry)
    {path : String} {keys : List String} (split : converter.delimiter.split path = keys.map .key)
    (unsigned : ∀ key ∈ keys, Unsigned key)
    (apart : ∀ later ∈ entries, converter.delimiter.Apart path later.1)
    (ended : converter.convertEntries lookup source strict output entries = pure result) :
    result.at? keys = output.at? keys := by
  induction entries generalizing output with
  | nil =>
      cases Attempt.pure_eq_pure_iff.mp ended
      rfl
  | cons entry rest ih =>
      obtain ⟨target, spec⟩ := entry
      obtain ⟨first, regularAfter⟩ := List.forall_mem_cons.mp regular
      obtain ⟨apartFirst, apartAfter⟩ := List.forall_mem_cons.mp apart
      obtain ⟨value, others, _, otherSplit, _, rootFree, onward⟩ :=
        convertEntries_regular lookupFree sourceFree outputFree first ended
      have parted := apartFirst.parted split otherSplit
      rw [ih rootFree regularAfter apartAfter onward,
        at?_setAt_of_parted outputFree ⟨parted.2, parted.1⟩
          (first.target.keys_unsigned otherSplit) unsigned]

theorem convertEntries_recordFree (lookupFree : lookup.KeepsRecordFree)
    (sourceFree : source.RecordFree) (outputFree : output.RecordFree)
    (regular : ∀ entry ∈ entries, RegularEntry converter.delimiter entry)
    (ended : converter.convertEntries lookup source strict output entries = pure result) :
    result.RecordFree := by
  induction entries generalizing output with
  | nil =>
      cases Attempt.pure_eq_pure_iff.mp ended
      exact outputFree
  | cons entry rest ih =>
      obtain ⟨first, others⟩ := List.forall_mem_cons.mp regular
      obtain ⟨value, keys, _, _, _, rootFree, onward⟩ :=
        convertEntries_regular lookupFree sourceFree outputFree first ended
      exact ih rootFree others onward

/-- What a conversion declares it puts out: at an output path from which the later ones
part, the result holds just what the source of the entry leads to. -/
theorem read_convert (builtIn : converter.filters.BuiltIn) (sourceFree : source.RecordFree)
    {schema : Schema} (schemaFree : schema.toValue.RecordFree)
    (targets : ∀ entry ∈ schema.entries, converter.delimiter.Regular entry.1) {depth : Nat}
    (converted : converter.convertWithin depth source schema strict = pure result)
    {before after : List (String × Value)} {target : String} {spec : Value}
    (declared : schema.entries = before ++ (target, spec) :: after)
    (apart : ∀ later ∈ after, converter.delimiter.Apart target later.1) :
    ∃ value, converter.lookupWithin depth source spec strict = pure value ∧
      result.read converter.delimiter true (.text target) = .ok value := by
  have lookupFree := lookupWithin_keepsRecordFree builtIn depth
  have regular := schema.regular_entries targets schemaFree
  unfold convertWithin at converted
  rw [declared] at converted regular
  obtain ⟨regularBefore, regularFrom⟩ := List.forall_mem_append.mp regular
  obtain ⟨here, regularAfter⟩ := List.forall_mem_cons.mp regularFrom
  rw [convertEntries_append fun entry member => (regularBefore entry member).target.nonempty,
    Attempt.bind_eq_pure_iff] at converted
  obtain ⟨middle, started, reached⟩ := converted
  have middleFree := convertEntries_recordFree lookupFree sourceFree
    (show (map []).RecordFree from trivial) regularBefore started
  obtain ⟨value, keys, found, split, written, rootFree, onward⟩ :=
    convertEntries_regular lookupFree sourceFree middleFree here reached
  have kept := at?_convertEntries lookupFree sourceFree rootFree regularAfter split
    (here.target.keys_unsigned split) apart onward
  have parsed : PathForm.parse converter.delimiter (.text target) = .ok (keys.map .key) :=
    congrArg Except.ok split
  refine ⟨value, found, ?_⟩
  rw [read_strict_keys_iff _ _ keys parsed, kept]
  exact at?_setAt middleFree written

end

/-- The second item is appended to the list that the first created, and both are kept. -/
theorem read_convert_appended :
    let source : Value := .map [("k", .bool false)]
    let schema : Schema :=
      { entries := [("a.0", .null), ("a.1", constant (.bool true)), ("b", constant .null)] }
    let result : Value := .map [("a", .list [source, .bool true]), ("b", .null)]
    let converter : Converter := { filters := .standard }
    converter.convertWithin 1 source schema true = pure result ∧
      ∃ value, converter.lookupWithin 1 source .null true = pure value ∧
        result.read .dot true (.text "a.0") = .ok value := by
  intro source schema result converter
  have given (value : Value) : converter.lookupWithin 1 source (constant value) true = pure value :=
    lookupWithin_constant Registry.find?_standard_const 0 rfl value true
  have converted : converter.convertWithin 1 source schema true = pure result := by
    have first : (map []).writeSet .dot (.text "a.0") source =
        { root := map [("a", list [source])] } := rfl
    have second : (map [("a", list [source])]).writeSet .dot (.text "a.1") (.bool true) =
        { root := map [("a", list [source, .bool true])] } := rfl
    have third : (map [("a", list [source, .bool true])]).writeSet .dot (.text "b") .null =
        { root := result } := rfl
    simp only [convertWithin, schema]
    rw [convertEntries_cons_of_written (lookupWithin_null 0 source true) (by decide) first rfl,
      convertEntries_cons_of_written (given (.bool true)) (by decide) second rfl,
      convertEntries_cons_of_written (given .null) (by decide) third rfl]
    rfl
  have firstKeys : Delimiter.dot.split "a.0" = [.key "a", .key "0"] := rfl
  have secondKeys : Delimiter.dot.split "a.1" = [.key "a", .key "1"] := rfl
  have thirdKeys : Delimiter.dot.split "b" = [.key "b"] := rfl
  have schemaFree : schema.toValue.RecordFree := by
    simp [Schema.toValue, schema, constant, recordFree_map_iff, RecordFree, ItemsRecordFree]
  have targets : ∀ entry ∈ schema.entries, Delimiter.dot.Regular entry.1 := by
    intro entry member
    simp only [schema, List.mem_cons, List.not_mem_nil, or_false] at member
    rcases member with rfl | rfl | rfl
    · exact ⟨by decide, by simp [firstKeys, Unsigned]⟩
    · exact ⟨by decide, by simp [secondKeys, Unsigned]⟩
    · exact ⟨by decide, by simp [thirdKeys, Unsigned]⟩
  have apart : ∀ later ∈ schema.entries.tail, Delimiter.dot.Apart "a.0" later.1 := by
    intro later member
    simp only [schema, List.tail_cons, List.mem_cons, List.not_mem_nil, or_false] at member
    rcases member with rfl | rfl
    · simp [Delimiter.Apart, firstKeys, secondKeys]
    · simp [Delimiter.Apart, firstKeys, thirdKeys]
  have sourceFree : source.RecordFree := ⟨trivial, trivial⟩
  have declared : schema.entries = [] ++ ("a.0", .null) :: schema.entries.tail := rfl
  exact ⟨converted,
    read_convert Registry.standard_builtIn sourceFree schemaFree targets converted declared apart⟩

/-- A record that a source of the schema brings may drop what a later entry writes to it. -/
theorem read_convert_dropped :
    let shape : Shape :=
      { name := "Sink"
        fields := [("x", { visibility := .shown, setter := some ⟨"x", .dropped⟩ })] }
    let sink : Value := .record (some shape) [("x", .null)]
    let schema : Schema := { entries := [("a", constant sink), ("a.x", constant (.bool true))] }
    let result : Value := .map [("a", sink)]
    let converter : Converter := { filters := .standard }
    (∀ entry ∈ schema.entries, Delimiter.dot.Regular entry.1) ∧
      converter.convertWithin 1 (.map []) schema true = pure result ∧
      converter.lookupWithin 1 (.map []) (constant (.bool true)) true = pure (.bool true) ∧
      result.read .dot true (.text "a.x") = .ok .null := by
  intro shape sink schema result converter
  have given (value : Value) :
      converter.lookupWithin 1 (.map []) (constant value) true = pure value :=
    lookupWithin_constant Registry.find?_standard_const 0 rfl value true
  have outerKeys : Delimiter.dot.split "a" = [.key "a"] := rfl
  have innerKeys : Delimiter.dot.split "a.x" = [.key "a", .key "x"] := rfl
  refine ⟨?_, ?_, given (.bool true), ?_⟩
  · intro entry member
    simp only [schema, List.mem_cons, List.not_mem_nil, or_false] at member
    rcases member with rfl | rfl
    · exact ⟨by decide, by simp [outerKeys, Unsigned]⟩
    · exact ⟨by decide, by simp [innerKeys, Unsigned]⟩
  · have first : (map []).writeSet .dot (.text "a") sink = { root := result } := rfl
    have second : result.writeSet .dot (.text "a.x") (.bool true) = { root := result } := rfl
    simp only [convertWithin, schema]
    rw [convertEntries_cons_of_written (given sink) (by decide) first rfl,
      convertEntries_cons_of_written (given (.bool true)) (by decide) second rfl]
    rfl
  · exact (read_strict_keys_iff .dot result ["a", "x"] rfl).mpr rfl

end Converter

end Reshape
