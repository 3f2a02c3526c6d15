import Reshape.Converter
import Reshape.Proofs.Filter.BuiltIn

namespace Reshape.Converter

variable {converter : Converter} {nested : Lookup} {source current root result : Value}
  {strict : Bool}

theorem answered_refusal (failure : Error) (strict : Bool) :
    Attempt.Answered (if strict then throw failure else pure .null : Attempt Error Value) := by
  split
  · exact Attempt.answered_throw failure
  · exact Attempt.answered_pure Value.null

theorem refusal_eq_pure {failure : Error}
    (ended : (if strict then throw failure else pure .null : Attempt Error Value) = pure result) :
    strict = false ∧ result = .null := by
  cases strict with
  | true => exact absurd ended Attempt.throw_ne_pure
  | false => exact ⟨rfl, (Attempt.pure_eq_pure_iff.mp ended).symm⟩

variable [Record.Accessors]

section Refusals

theorem answered_settle (name : String) (strict : Bool) (failure : FilterFailure) :
    (settle name strict failure).Answered := by
  unfold settle
  split
  · exact Attempt.answered_throw _
  · exact answered_refusal _ strict

theorem settle_eq_pure {name : String} {failure : FilterFailure}
    (ended : settle name strict failure = pure result) : strict = false ∧ result = .null := by
  unfold settle at ended
  split at ended
  · exact absurd ended Attempt.throw_ne_pure
  · exact refusal_eq_pure ended

end Refusals

section Selection

variable {path : String}

theorem answered_select (source : Value) (path : String) (strict : Bool) :
    (converter.select source path strict).Answered := by
  unfold select
  split
  · exact Attempt.answered_pure _
  · split
    · exact answered_refusal _ strict
    · split
      · exact Attempt.answered_pure _
      · exact Attempt.answered_throw _

theorem select_of_read (nonempty : path ≠ "") (container : source.isContainer)
    (found : source.read converter.delimiter strict (.text path) = .ok result) :
    converter.select source path strict = pure result := by
  have named : ¬ path.isEmpty := fun empty => nonempty (String.isEmpty_iff.mp empty)
  rw [select, if_neg named, if_neg (by simp [container]), found]

theorem select_of_unread (nonempty : path ≠ "") (container : source.isContainer) {cause : PathError}
    (failed : source.read converter.delimiter strict (.text path) = .error cause) :
    converter.select source path strict = throw (.cannotGet path source cause) := by
  have named : ¬ path.isEmpty := fun empty => nonempty (String.isEmpty_iff.mp empty)
  rw [select, if_neg named, if_neg (by simp [container]), failed]

end Selection

section Calls

variable {name : String} {arguments : List Value} {filter : Filter}

theorem applyFilter_of_nameless {call : List Value}
    (nameless : ¬ ∃ name arguments, call = .string name :: arguments) :
    converter.applyFilter nested current root call strict =
      malformed .namelessCall (.list call) strict := by
  unfold applyFilter
  split
  · rename_i name arguments
    exact absurd ⟨name, arguments, rfl⟩ nameless
  · rfl

theorem applyFilter_of_unknown (unknown : converter.filters.find? name = none) :
    converter.applyFilter nested current root (.string name :: arguments) strict =
      throw (.filterNotFound name) := by
  rw [applyFilter, unknown]

theorem applyFilter_of_result (found : converter.filters.find? name = some filter) {value : Value}
    (given : filter { source := current, root, strict, lookup := nested } arguments = pure value) :
    converter.applyFilter nested current root (.string name :: arguments) strict = pure value := by
  simp only [applyFilter, found, given]
  rfl

theorem applyFilter_of_failure (found : converter.filters.find? name = some filter)
    {failure : FilterFailure}
    (failed : filter { source := current, root, strict, lookup := nested } arguments =
      throw failure) :
    converter.applyFilter nested current root (.string name :: arguments) strict =
      settle name strict failure := by
  simp only [applyFilter, found, failed]
  rfl

theorem applyFilter_of_none (found : converter.filters.find? name = some filter)
    (missing : filter { source := current, root, strict, lookup := nested } arguments =
      ExceptT.mk none) :
    converter.applyFilter nested current root (.string name :: arguments) strict =
      ExceptT.mk none := by
  simp only [applyFilter, found, missing]
  rfl

theorem answered_applyFilter_iff (found : converter.filters.find? name = some filter) :
    (converter.applyFilter nested current root (.string name :: arguments) strict).Answered ↔
      (filter { source := current, root, strict, lookup := nested } arguments).Answered := by
  obtain missing | ⟨failure, failed⟩ | ⟨value, given⟩ := Attempt.outcomes
    (filter { source := current, root, strict, lookup := nested } arguments)
  · rw [applyFilter_of_none found missing, missing]
    exact iff_of_false Attempt.not_answered_none Attempt.not_answered_none
  · rw [applyFilter_of_failure found failed, failed]
    exact iff_of_true (answered_settle name strict failure) (Attempt.answered_throw failure)
  · rw [applyFilter_of_result found given, given]
    exact iff_of_true (Attempt.answered_pure value) (Attempt.answered_pure value)

theorem runStep_path_of_result (found : converter.filters.find? "path" = some Filter.path)
    (looked : Filter.looksUp current) {value : Value}
    (given : nested root current (Filter.lookupMode arguments strict) = pure value) :
    converter.runStep nested root strict current (.list (.string "path" :: arguments)) =
      pure value := by
  apply applyFilter_of_result found
  exact (Filter.path_of_looksUp looked arguments).trans (congrArg Filter.ofLookup given)

theorem runStep_path_of_failure (found : converter.filters.find? "path" = some Filter.path)
    (looked : Filter.looksUp current) {failure : Error}
    (failed : nested root current (Filter.lookupMode arguments strict) = throw failure) :
    converter.runStep nested root strict current (.list (.string "path" :: arguments)) =
      settle "path" strict (.lookup failure) := by
  apply applyFilter_of_failure found
  exact (Filter.path_of_looksUp looked arguments).trans (congrArg Filter.ofLookup failed)

theorem answered_runStep {step : Value}
    (uncalled : ∀ name arguments filter, step = .list (.string name :: arguments) →
      converter.filters.find? name ≠ some filter) :
    (converter.runStep nested root strict current step).Answered := by
  cases step with
  | string path => exact answered_select current path strict
  | null | bool | number | map | record => exact answered_refusal _ strict
  | list call =>
      rw [runStep]
      by_cases named : ∃ name arguments, call = .string name :: arguments
      · obtain ⟨name, arguments, rfl⟩ := named
        have unknown : converter.filters.find? name = none :=
          Option.eq_none_iff_forall_ne_some.mpr fun filter => uncalled name arguments filter rfl
        rw [applyFilter_of_unknown unknown]
        exact Attempt.answered_throw _
      · rw [applyFilter_of_nameless named]
        exact answered_refusal _ strict

theorem applyFilter_eq_pure {call : List Value}
    (ended : converter.applyFilter nested current root call strict = pure result) :
    (∃ name arguments filter, call = .string name :: arguments ∧
      converter.filters.find? name = some filter ∧
      filter { source := current, root, strict, lookup := nested } arguments = pure result) ∨
    (strict = false ∧ result = .null) := by
  by_cases named : ∃ name arguments, call = .string name :: arguments
  · obtain ⟨name, arguments, rfl⟩ := named
    cases found : converter.filters.find? name with
    | none =>
        rw [applyFilter_of_unknown found] at ended
        exact absurd ended Attempt.throw_ne_pure
    | some filter =>
        obtain missing | ⟨failure, failed⟩ | ⟨value, given⟩ := Attempt.outcomes
          (filter { source := current, root, strict, lookup := nested } arguments)
        · rw [applyFilter_of_none found missing] at ended
          exact absurd ended Attempt.none_ne_pure
        · rw [applyFilter_of_failure found failed] at ended
          exact .inr (settle_eq_pure ended)
        · rw [applyFilter_of_result found given] at ended
          cases Attempt.pure_eq_pure_iff.mp ended
          exact .inl ⟨name, arguments, filter, rfl, found, given⟩
  · rw [applyFilter_of_nameless named] at ended
    exact .inr (refusal_eq_pure ended)

end Calls

theorem evaluate_steps (container : source.isContainer) (steps : List Value) :
    converter.evaluate nested source (.list steps) strict =
      steps.foldlM (converter.runStep nested source strict) source := by
  rw [evaluate, if_pos container]

theorem evaluate_uncontained (scalar : ¬ source.isContainer) (steps : List Value) :
    converter.evaluate nested source (.list steps) strict = rejectSource source strict := by
  rw [evaluate, if_neg scalar]

theorem answered_evaluate {key : Value} (unlisted : ∀ steps, key ≠ .list steps) :
    (converter.evaluate nested source key strict).Answered := by
  unfold evaluate
  split
  · exact Attempt.answered_pure source
  · exact answered_select source _ strict
  · rename_i steps
    exact absurd rfl (unlisted steps)
  · split
    · exact answered_refusal _ strict
    · exact answered_refusal _ strict

theorem lookupWithin_null (depth : Nat) (source : Value) (strict : Bool) :
    converter.lookupWithin (depth + 1) source .null strict = pure source := rfl

theorem lookupWithin_path (depth : Nat) (source : Value) (path : String) (strict : Bool) :
    converter.lookupWithin (depth + 1) source (.string path) strict =
      converter.select source path strict := rfl

/-- The source that gives one value whatever the input is. -/
def constant (value : Value) : Value := .list [.list [.string "const", value]]

theorem lookupWithin_constant (found : converter.filters.find? "const" = some Filter.const)
    (depth : Nat) (container : source.isContainer) (value : Value) (strict : Bool) :
    converter.lookupWithin (depth + 1) source (constant value) strict = pure value := by
  have called : converter.runStep (converter.lookupWithin depth) source strict source
      (.list [.string "const", value]) = pure value := applyFilter_of_result found rfl
  rw [constant, lookupWithin, evaluate_steps container, List.foldlM_cons, called]
  rfl

section Entries

variable {lookup : Lookup} {output value : Value} {target : String} {spec : Value}
  {rest : List (String × Value)}

theorem convertEntries_cons_of_failure {failure : Error}
    (failed : lookup source spec strict = throw failure) :
    converter.convertEntries lookup source strict output ((target, spec) :: rest) =
      throw failure := by
  rw [convertEntries, failed]
  rfl

theorem convertEntries_cons_of_empty (found : lookup source spec strict = pure value) :
    converter.convertEntries lookup source strict output (("", spec) :: rest) = pure value := by
  rw [convertEntries, found, pure_bind, if_pos (String.isEmpty_iff.mpr rfl)]

variable {written : Written}

theorem convertEntries_cons_of_refused (found : lookup source spec strict = pure value)
    (nonempty : target ≠ "")
    (wrote : output.writeSet converter.delimiter (.text target) value = written)
    {failure : PathError} (refused : written.failure = some failure) :
    converter.convertEntries lookup source strict output ((target, spec) :: rest) =
      throw (.path failure) := by
  have named : ¬ target.isEmpty := fun empty => nonempty (String.isEmpty_iff.mp empty)
  rw [convertEntries, found, pure_bind, if_neg named, wrote]
  dsimp only
  rw [refused]

theorem convertEntries_cons_of_written (found : lookup source spec strict = pure value)
    (nonempty : target ≠ "")
    (wrote : output.writeSet converter.delimiter (.text target) value = written)
    (completed : written.failure = none) :
    converter.convertEntries lookup source strict output ((target, spec) :: rest) =
      converter.convertEntries lookup source strict written.root rest := by
  have named : ¬ target.isEmpty := fun empty => nonempty (String.isEmpty_iff.mp empty)
  rw [convertEntries, found, pure_bind, if_neg named, wrote]
  dsimp only
  rw [completed]

/-- A conversion that goes through an entry has looked its value up. It ends there if the
output path is empty, and otherwise has written the value and goes on. -/
theorem convertEntries_cons_eq_pure
    (ended : converter.convertEntries lookup source strict output ((target, spec) :: rest) =
      pure result) :
    ∃ value, lookup source spec strict = pure value ∧
      let written := output.writeSet converter.delimiter (.text target) value
      (target = "" ∧ result = value ∨
        target ≠ "" ∧ written.failure = none ∧
          converter.convertEntries lookup source strict written.root rest = pure result) := by
  have bound := ended
  rw [convertEntries, Attempt.bind_eq_pure_iff] at bound
  obtain ⟨value, found, -⟩ := bound
  refine ⟨value, found, ?_⟩
  by_cases empty : target = ""
  · subst empty
    rw [convertEntries_cons_of_empty found] at ended
    exact .inl ⟨rfl, (Attempt.pure_eq_pure_iff.mp ended).symm⟩
  · cases completed : (output.writeSet converter.delimiter (.text target) value).failure with
    | some failure =>
        rw [convertEntries_cons_of_refused found empty rfl completed] at ended
        exact absurd ended Attempt.throw_ne_pure
    | none =>
        rw [convertEntries_cons_of_written found empty rfl completed] at ended
        exact .inr ⟨empty, completed, ended⟩

theorem convertEntries_append {before after : List (String × Value)}
    (named : ∀ entry ∈ before, entry.1 ≠ "") :
    converter.convertEntries lookup source strict output (before ++ after) =
      (converter.convertEntries lookup source strict output before >>= fun reached =>
        converter.convertEntries lookup source strict reached after) := by
  induction before generalizing output with
  | nil => rfl
  | cons entry rest ih =>
      obtain ⟨target, spec⟩ := entry
      obtain ⟨nonempty, others⟩ := List.forall_mem_cons.mp named
      have visible : ¬ target.isEmpty := fun empty => nonempty (String.isEmpty_iff.mp empty)
      rw [List.cons_append, convertEntries, convertEntries, bind_assoc]
      apply bind_congr
      intro value
      rw [if_neg visible, if_neg visible]
      dsimp only
      split
      · rfl
      · exact ih others

end Entries

end Reshape.Converter
