import Reshape.Proofs.Convert.Rebuild
import Reshape.Proofs.Convert.Suppression
import Reshape.Proofs.Text.Split
import Reshape.Proofs.Write.Success
/-!
Checking a schema and converting by it. A schema has no issues just where its output paths
hold keys only and its sources are made of paths and of calls of known filters. What the
check passes a conversion understands, whatever its input; and what a strict conversion has
gone through the check passes.
-/

namespace Reshape

namespace Schema

/-- A step of a pipeline that the check passes. -/
inductive KnownStep (filters : Registry) : Value → Prop
  | path (path : String) : KnownStep filters (.string path)
  | call {name : String} {filter : Filter} (found : filters.find? name = some filter)
      (arguments : List Value) : KnownStep filters (.list (.string name :: arguments))

/-- A source of an entry that the check passes. -/
inductive KnownSource (filters : Registry) : Value → Prop
  | whole : KnownSource filters .null
  | path (path : String) : KnownSource filters (.string path)
  | steps {steps : List Value} (each : ∀ step ∈ steps, KnownStep filters step) :
      KnownSource filters (.list steps)

variable {filters : Registry} {delimiter : Delimiter}

theorem stepFaults_eq_nil_iff {position : Nat} {step : Value} :
    stepFaults filters position step = [] ↔ KnownStep filters step := by
  constructor
  · intro clean
    unfold stepFaults at clean
    split at clean
    · exact .path _
    · split at clean
      · rename_i known
        obtain ⟨filter, found⟩ := Option.isSome_iff_exists.mp known
        exact .call found _
      · contradiction
    · contradiction
    · contradiction
  · intro known
    cases known with
    | path path => rfl
    | call found arguments =>
        have contained : filters.contains _ = true := Option.isSome_iff_exists.mpr ⟨_, found⟩
        simp [stepFaults, contained]

theorem stepsFaults_eq_nil_iff {position : Nat} {steps : List Value} :
    stepsFaults filters position steps = [] ↔ ∀ step ∈ steps, KnownStep filters step := by
  induction steps generalizing position with
  | nil => simp [stepsFaults]
  | cons step rest ih => simp [stepsFaults, stepFaults_eq_nil_iff, ih]

theorem sourceFaults_eq_nil_iff {source : Value} :
    sourceFaults filters source = [] ↔ KnownSource filters source := by
  constructor
  · intro clean
    cases source with
    | null => exact .whole
    | string path => exact .path path
    | list steps => exact .steps (stepsFaults_eq_nil_iff.mp clean)
    | bool | number | map | record => contradiction
  · intro known
    cases known with
    | whole => rfl
    | path path => rfl
    | steps each => exact stepsFaults_eq_nil_iff.mpr each

theorem literal_of_find? {tokens : List Token} (literal : tokens.find? Token.isOperator = none) :
    (tokens.filterMap Token.key?).map .key = tokens := by
  induction tokens with
  | nil => rfl
  | cons token rest ih =>
      cases token with
      | key name =>
          have tail := ih (by simpa [Token.isOperator, Token.key?] using literal)
          simp [Token.key?, tail]
      | wildcard | flatten | cancel => contradiction

theorem outputFaults_eq_nil_iff {output : String} :
    outputFaults delimiter output = [] ↔ ∃ keys : List String, delimiter.split output = keys.map .key := by
  constructor
  · intro clean
    unfold outputFaults at clean
    split at clean
    · contradiction
    · rename_i literal
      exact ⟨_, (literal_of_find? literal).symm⟩
  · rintro ⟨keys, split⟩
    have literal : (keys.map Token.key).find? Token.isOperator = none := by
      simp [Token.isOperator, Token.key?]
    simp [outputFaults, split, literal]

theorem check_eq_nil_iff {schema : Schema} :
    schema.check filters delimiter = [] ↔
      ∀ entry ∈ schema.entries, (∃ keys : List String, delimiter.split entry.1 = keys.map .key) ∧
        KnownSource filters entry.2 := by
  simp [check, outputFaults_eq_nil_iff, sourceFaults_eq_nil_iff]

end Schema

theorem Delimiter.split_ne_nil {delimiter : Delimiter} {path : String} (nonempty : path ≠ "") :
    delimiter.split path ≠ [] := by
  rw [split, if_neg (by simpa using nonempty)]
  simpa using Text.split_ne_nil delimiter.text path

namespace Value

variable {delimiter : Delimiter} {value : Value}

theorem writeSet_map [Record.Accessors] {entries : List (String × Value)} {path : String}
    (nonempty : path ≠ "")
    (written : ((map entries).writeSet delimiter (.text path) value).failure = none) :
    ∃ others, ((map entries).writeSet delimiter (.text path) value).root = .map others := by
  obtain ⟨keys, parsed, same⟩ := writeSet_of_success written
  have split : delimiter.split path = keys.map .key := Except.ok.inj parsed
  cases keys with
  | nil => exact absurd split (Delimiter.split_ne_nil nonempty)
  | cons key rest =>
      have accepted : (containerFor key (map entries)).accepts key := rfl
      rw [same, setAt_of_accepts accepted]
      exact ⟨_, rfl⟩

end Value

namespace Converter

variable {converter : Converter} {nested lookup : Lookup} {source current root result : Value}
  {strict : Bool}

section Success

variable [Record.Accessors]

theorem knownStep_of_strict {step : Value}
    (ended : converter.runStep nested root true current step = pure result) :
    Schema.KnownStep converter.filters step := by
  cases step with
  | string path => exact .path path
  | list call =>
      obtain ⟨name, arguments, filter, rfl, found, _⟩ | ⟨lenient, _⟩ := applyFilter_eq_pure ended
      · exact .call found arguments
      · contradiction
  | null | bool | number | map | record => exact absurd ended Attempt.throw_ne_pure

theorem knownSource_of_strict {key : Value} (container : source.isContainer)
    (ended : converter.evaluate nested source key true = pure result) :
    Schema.KnownSource converter.filters key := by
  cases key with
  | null => exact .whole
  | string path => exact .path path
  | list steps =>
      rw [evaluate_steps container] at ended
      refine .steps fun step member => ?_
      obtain ⟨current, next, ran⟩ := Attempt.foldlM_succeeds ended step member
      exact knownStep_of_strict ran
  | bool | number | map | record =>
      unfold evaluate at ended
      dsimp only at ended
      split at ended
      · exact absurd ended Attempt.throw_ne_pure
      · exact absurd ended Attempt.throw_ne_pure

theorem checked_of_convertEntries {depth : Nat} {output : Value} {entries : List (String × Value)}
    (named : ∀ entry ∈ entries, entry.1 ≠ "") (container : source.isContainer)
    (ended : converter.convertEntries (converter.lookupWithin depth) source true output entries =
      pure result) :
    ∀ entry ∈ entries, (∃ keys : List String, converter.delimiter.split entry.1 = keys.map .key) ∧
      Schema.KnownSource converter.filters entry.2 := by
  induction entries generalizing output with
  | nil => simp
  | cons entry rest ih =>
      obtain ⟨target, spec⟩ := entry
      obtain ⟨nonempty, others⟩ := List.forall_mem_cons.mp named
      obtain ⟨value, found, ⟨empty, _⟩ | ⟨_, written, onward⟩⟩ := convertEntries_cons_eq_pure ended
      · exact absurd empty nonempty
      · obtain ⟨keys, parsed, _⟩ := Value.writeSet_of_success written
        have known : Schema.KnownSource converter.filters spec := by
          cases depth with
          | zero => exact absurd found Attempt.none_ne_pure
          | succ depth => exact knownSource_of_strict container found
        exact List.forall_mem_cons.mpr ⟨⟨⟨keys, Except.ok.inj parsed⟩, known⟩, ih others onward⟩

/-- No false alarms: whatever the filters are, the check has nothing to say about a schema
by which a strict conversion of some container has gone through. -/
theorem check_of_strict_success {schema : Schema} {depth : Nat}
    (named : ∀ entry ∈ schema.entries, entry.1 ≠ "") (container : source.isContainer)
    (converted : converter.convertWithin depth source schema true = pure result) :
    converter.check schema = [] :=
  Schema.check_eq_nil_iff.mpr (checked_of_convertEntries named container converted)

end Success

/-- A filter that is not one of the standard ones, and paths written with a slash. -/
theorem check_of_strict_success_custom :
    let echo : Filter := Filter.ofPure fun context _ => .ok (.list [context.source])
    let converter : Converter :=
      { filters := ({} : Registry).register "echo" echo, delimiter := { text := "/" } }
    let source : Value := .map [("k", .bool true)]
    let schema : Schema :=
      { entries := [("a/0", .list [.string "k", .list [.string "echo"]]), ("b", .null)] }
    let result : Value := .map [("a", .list [.list [.bool true]]), ("b", source)]
    (∀ entry ∈ schema.entries, entry.1 ≠ "") ∧ source.isContainer = true ∧
      converter.convertWithin 1 source schema true = pure result ∧
      converter.check schema = [] := by
  intro echo converter source schema result
  have named : ∀ entry ∈ schema.entries, entry.1 ≠ "" := by simp [schema]
  have known : converter.filters.find? "echo" = some echo := by
    simp [converter, Registry.find?_register]
  have slashed : PathForm.parse converter.delimiter (.text "k") = .ok (["k"].map .key) := by decide
  have selected : converter.select source "k" true = pure (.bool true) :=
    select_of_read (by decide) rfl (Value.read_of_at? slashed rfl true)
  have found : converter.lookupWithin 1 source (.list [.string "k", .list [.string "echo"]]) true =
      pure (.list [.bool true]) := by
    rw [lookupWithin, evaluate_steps rfl, List.foldlM_cons, runStep, selected, pure_bind,
      List.foldlM_cons, runStep, applyFilter_of_result known rfl]
    rfl
  have converted : converter.convertWithin 1 source schema true = pure result := by
    have first : (Value.map []).writeSet { text := "/" } (.text "a/0") (.list [.bool true]) =
        { root := .map [("a", .list [.list [.bool true]])] } := rfl
    have second : (Value.map [("a", .list [.list [.bool true]])]).writeSet { text := "/" }
        (.text "b") source = { root := result } := rfl
    simp only [convertWithin, schema]
    rw [convertEntries_cons_of_written found (by decide) first rfl,
      convertEntries_cons_of_written (lookupWithin_null 0 source true) (by decide) second rfl]
    rfl
  exact ⟨named, rfl, converted, check_of_strict_success named rfl converted⟩

section Soundness

/-- What can make a lookup of a known source fail, and only in strict mode. -/
structure FailsStrictly (strict : Bool) (failure : Error) : Prop where
  strict : strict = true
  kind : failure.kind ∈ [ErrorKind.unsupportedSourceType, .cannotGetValue, .filterError]

/-- An attempt that ends, and fails in strict mode only. -/
def Sound (strict : Bool) (attempt : Attempt Error Value) : Prop :=
  attempt.Answered ∧ ∀ failure, attempt = throw failure → FailsStrictly strict failure

theorem sound_pure (value : Value) : Sound strict (pure value) :=
  ⟨Attempt.answered_pure value, fun _ same => absurd same.symm Attempt.throw_ne_pure⟩

theorem sound_refusal {failure : Error}
    (kind : failure.kind ∈ [ErrorKind.unsupportedSourceType, .cannotGetValue, .filterError]) :
    Sound strict (if strict then throw failure else pure .null) := by
  cases strict with
  | false => exact sound_pure .null
  | true =>
      refine ⟨Attempt.answered_throw failure, fun reason same => ?_⟩
      cases same
      exact ⟨rfl, kind⟩

variable [Record.Accessors]

theorem sound_select (source : Value) (path : String) :
    Sound strict (converter.select source path strict) := by
  refine ⟨answered_select source path strict, fun failure failed => ?_⟩
  cases strict with
  | false =>
      obtain ⟨value, selected⟩ := select_lenient_total converter source path
      exact absurd (failed.symm.trans selected) Attempt.throw_ne_pure
  | true =>
      refine ⟨rfl, ?_⟩
      unfold select at failed
      split at failed
      · exact absurd failed.symm Attempt.throw_ne_pure
      · split at failed
        · cases failed
          simp [Error.kind]
        · split at failed
          · exact absurd failed.symm Attempt.throw_ne_pure
          · cases failed
            simp [Error.kind]

theorem sound_call {name : String} {body : FilterContext → List Value → Except FilterFault Value}
    (found : converter.filters.find? name = some (Filter.ofPure body)) (arguments : List Value) :
    Sound strict
      (converter.applyFilter nested current root (.string name :: arguments) strict) := by
  let context : FilterContext := { source := current, root, strict, lookup := nested }
  cases given : body context arguments with
  | ok value =>
      have result : Filter.ofPure body context arguments = pure value :=
        Filter.ofPure_eq_pure_iff.mpr given
      rw [applyFilter_of_result found result]
      exact sound_pure value
  | error fault =>
      have failed : Filter.ofPure body context arguments = throw (.fault fault) := by
        rw [Filter.ofPure, given]
        rfl
      rw [applyFilter_of_failure found failed]
      exact sound_refusal (by simp [Error.kind])

/-- No call of `path` is among the steps of a source. -/
def Pathless (spec : Value) : Prop :=
  ∀ steps, spec = .list steps → ∀ arguments, .list (.string "path" :: arguments) ∉ steps

theorem sound_evaluate (filters : converter.filters = .standard) {spec : Value}
    (known : Schema.KnownSource converter.filters spec) (pathless : Pathless spec) :
    Sound strict (converter.evaluate nested source spec strict) := by
  cases known with
  | whole => exact sound_pure source
  | path path => exact sound_select source path
  | @steps steps each =>
      by_cases container : source.isContainer
      · have step : ∀ current step, step ∈ steps →
            Sound strict (converter.runStep nested source strict current step) := by
          intro current step member
          cases each step member with
          | path path => exact sound_select current path
          | @call name filter found arguments =>
              have other : name ≠ "path" := by
                rintro rfl
                exact pathless steps rfl arguments member
              obtain ⟨body, rfl⟩ := Registry.standard_ofPure (filters ▸ found) other
              exact sound_call found arguments
        rw [evaluate_steps container]
        exact ⟨Attempt.answered_foldlM (fun current member inside => (step current member inside).1)
            source,
          fun failure failed => Attempt.foldlM_fails
            (fun current member reason inside => (step current member inside).2 reason) failed⟩
      · rw [evaluate_uncontained container]
        exact sound_refusal (by simp [Error.kind])

/-- The conversion goes through, or a place in the output cannot be written, or in strict
mode a lookup fails. -/
theorem convertEntries_sound {output : Value} {entries : List (String × Value)}
    (literal : ∀ entry ∈ entries,
      ∃ keys : List String, converter.delimiter.split entry.1 = keys.map .key)
    (sound : ∀ entry ∈ entries, Sound strict (lookup source entry.2 strict)) :
    (converter.convertEntries lookup source strict output entries).Answered ∧
      ∀ failure, converter.convertEntries lookup source strict output entries = throw failure →
        failure.kind = .pathNotWritable ∨ FailsStrictly strict failure := by
  induction entries generalizing output with
  | nil =>
      exact ⟨Attempt.answered_pure output, fun _ same => absurd same.symm Attempt.throw_ne_pure⟩
  | cons entry rest ih =>
      obtain ⟨target, spec⟩ := entry
      obtain ⟨⟨keys, split⟩, othersLiteral⟩ := List.forall_mem_cons.mp literal
      obtain ⟨here, othersSound⟩ := List.forall_mem_cons.mp sound
      obtain ⟨reason, failed⟩ | ⟨value, found⟩ := here.1.cases
      · rw [convertEntries_cons_of_failure failed]
        refine ⟨Attempt.answered_throw reason, fun failure same => ?_⟩
        cases same
        exact .inr (here.2 reason failed)
      · by_cases empty : target = ""
        · subst empty
          rw [convertEntries_cons_of_empty found]
          exact ⟨Attempt.answered_pure value,
            fun _ same => absurd same.symm Attempt.throw_ne_pure⟩
        · cases completed : (output.writeSet converter.delimiter (.text target) value).failure with
          | some reason =>
              rw [convertEntries_cons_of_refused found empty rfl completed]
              refine ⟨Attempt.answered_throw _, fun failure same => ?_⟩
              cases same
              have parsed : PathForm.parse converter.delimiter (.text target) =
                  .ok (keys.map .key) := congrArg Except.ok split
              exact .inl (Value.writeSet_failure_kind parsed completed)
          | none =>
              rw [convertEntries_cons_of_written found empty rfl completed]
              exact ih othersLiteral othersSound

theorem convertEntries_map {entries : List (String × Value)}
    (named : ∀ entry ∈ entries, entry.1 ≠ "") {before : List (String × Value)}
    (ended : converter.convertEntries lookup source strict (.map before) entries = pure result) :
    ∃ after, result = .map after := by
  induction entries generalizing before with
  | nil => exact ⟨before, (Attempt.pure_eq_pure_iff.mp ended).symm⟩
  | cons entry rest ih =>
      obtain ⟨target, spec⟩ := entry
      obtain ⟨nonempty, others⟩ := List.forall_mem_cons.mp named
      obtain ⟨value, _, ⟨empty, _⟩ | ⟨_, written, onward⟩⟩ := convertEntries_cons_eq_pure ended
      · exact absurd empty nonempty
      · obtain ⟨after, root⟩ := Value.writeSet_map nonempty written
        rw [root] at onward
        exact ih others onward

/-- With the standard filters, a schema that has no issues and does not call `path` is
converted to the end: in lenient mode only a place in the output that cannot be written
fails, in strict mode also a source that is no container, a path that leads nowhere and a
filter. No write is tried on an output that is no container. -/
theorem convert_of_check (delimiter : Delimiter) {schema : Schema}
    (clean : schema.check .standard delimiter = [])
    (pathless : ∀ entry ∈ schema.entries, Pathless entry.2) (source : Value) (depth : Nat) :
    let converter : Converter := { filters := .standard, delimiter }
    ((∃ value, converter.convertWithin (depth + 1) source schema false = pure value) ∨
      ∃ failure, converter.convertWithin (depth + 1) source schema false = throw failure ∧
        failure.kind = .pathNotWritable) ∧
    ((∃ value, converter.convertWithin (depth + 1) source schema true = pure value) ∨
      ∃ failure, converter.convertWithin (depth + 1) source schema true = throw failure ∧
        failure.kind ∈ [ErrorKind.pathNotWritable, .unsupportedSourceType, .cannotGetValue,
          .filterError]) ∧
    ∀ strict before after output, schema.entries = before ++ after →
      (∀ entry ∈ before, entry.1 ≠ "") →
      converter.convertEntries (converter.lookupWithin (depth + 1)) source strict (.map [])
        before = pure output → output.checkRoot = .ok () := by
  intro converter
  have checked := Schema.check_eq_nil_iff.mp clean
  have ended (strict : Bool) := @convertEntries_sound converter
    (converter.lookupWithin (depth + 1)) source strict _ (.map []) schema.entries
    (fun entry member => (checked entry member).1)
    (fun entry member => sound_evaluate rfl (checked entry member).2 (pathless entry member))
  refine ⟨?lenient, ?strict, ?root⟩
  case lenient =>
    obtain ⟨failure, failed⟩ | succeeded := (ended false).1.cases
    · refine .inr ⟨failure, failed, ?_⟩
      rcases (ended false).2 failure failed with unwritable | strictly
      · exact unwritable
      · exact absurd strictly.strict (by decide)
    · exact .inl succeeded
  case strict =>
    obtain ⟨failure, failed⟩ | succeeded := (ended true).1.cases
    · refine .inr ⟨failure, failed, ?_⟩
      rcases (ended true).2 failure failed with unwritable | strictly
      · exact List.mem_cons.mpr (.inl unwritable)
      · exact List.mem_cons_of_mem _ strictly.kind
    · exact .inl succeeded
  case root =>
    intro strict before after output declared named reached
    obtain ⟨entries, rfl⟩ := convertEntries_map named reached
    rfl

end Soundness

/-- A filter that fails, in a mode that passes over it and then cannot write to the second
position of an empty list, and in a mode that does not. -/
theorem convert_of_check_failing :
    let source : Value := .map [("k", .list [.bool true])]
    let spec : Value := .list [.string "k", .list [.string "sum"]]
    let schema : Schema := { entries := [("a.1", spec)] }
    let converter : Converter := { filters := .standard }
    schema.check .standard .dot = [] ∧ (∀ entry ∈ schema.entries, Pathless entry.2) ∧
      (∃ failure, converter.convertWithin 1 source schema false = throw failure ∧
        failure.kind = .pathNotWritable) ∧
      ∃ failure, converter.convertWithin 1 source schema true = throw failure ∧
        failure.kind = .filterError := by
  intro source spec schema converter
  have known : converter.filters.find? "sum" = some Filter.sum := Registry.find?_standard_sum
  have clean : schema.check .standard .dot = [] := by
    have keys : Delimiter.dot.split "a.1" = ["a", "1"].map .key := rfl
    refine Schema.check_eq_nil_iff.mpr (List.forall_mem_singleton.mpr ⟨⟨_, keys⟩, .steps ?_⟩)
    exact List.forall_mem_cons.mpr ⟨.path "k", List.forall_mem_singleton.mpr (.call known [])⟩
  have pathless : ∀ entry ∈ schema.entries, Pathless entry.2 := by
    simp [schema, spec, Pathless]
  have selected (strict : Bool) : converter.select source "k" strict = pure (.list [.bool true]) :=
    select_of_read (by decide) rfl (@Value.read_of_at? _ source _ ["k"] .dot (.text "k") rfl rfl strict)
  have passed : converter.lookupWithin 1 source spec false = pure .null := by
    rw [lookupWithin, evaluate_steps rfl, List.foldlM_cons, runStep, selected, pure_bind,
      List.foldlM_cons, runStep, applyFilter_of_failure known rfl]
    rfl
  obtain ⟨reason, refused⟩ : ∃ reason,
      ((Value.map []).writeSet .dot (.text "a.1") .null).failure = some reason := ⟨_, rfl⟩
  have unwritten : converter.convertWithin 1 source schema false = throw (.path reason) :=
    convertEntries_cons_of_refused passed (by decide) rfl refused
  obtain ⟨fault, stopped⟩ : ∃ fault,
      converter.lookupWithin 1 source spec true = throw (.filterFailed "sum" fault) := by
    rw [lookupWithin, evaluate_steps rfl, List.foldlM_cons, runStep, selected, pure_bind,
      List.foldlM_cons, runStep, applyFilter_of_failure known rfl]
    exact ⟨_, rfl⟩
  have ended := convert_of_check .dot clean pathless source 0
  refine ⟨clean, pathless, ?_, _, convertEntries_cons_of_failure stopped, rfl⟩
  apply ended.1.resolve_left
  rintro ⟨value, converted⟩
  exact Attempt.throw_ne_pure (unwritten.symm.trans converted)

end Converter

end Reshape
