import Reshape.Proofs.Convert.Nesting

namespace Reshape

theorem Value.read_lenient_total [Record.Accessors] (delimiter : Delimiter) (root : Value)
    (path : String) :
    ∃ value, root.read delimiter false (.text path) = .ok value := by
  obtain ⟨found, resolved⟩ : ∃ found, root.resolve delimiter false (delimiter.split path) =
      .ok found := resolve_lenient_total
  exact ⟨_, read_eq_of_resolve rfl resolved⟩

namespace Converter

section

variable [Record.Accessors] {converter : Converter} {nested : Lookup}
  {source current root key : Value}
  {failure : Error}

theorem settle_lenient_kind {name : String} {cause : FilterFailure}
    (failed : settle name false cause = throw failure) : failure.kind = .filterNotFound := by
  unfold settle at failed
  split at failed
  · cases failed
    rfl
  · exact absurd failed.symm Attempt.throw_ne_pure

theorem select_lenient_total (converter : Converter) (source : Value) (path : String) :
    ∃ value, converter.select source path false = pure value := by
  unfold select
  split
  · exact ⟨source, rfl⟩
  · split
    · exact ⟨.null, rfl⟩
    · obtain ⟨value, answered⟩ := Value.read_lenient_total converter.delimiter source path
      rw [answered]
      exact ⟨value, rfl⟩

theorem applyFilter_lenient_kind {call : List Value}
    (failed : converter.applyFilter nested current root call false = throw failure) :
    failure.kind = .filterNotFound := by
  by_cases named : ∃ name arguments, call = .string name :: arguments
  · obtain ⟨name, arguments, rfl⟩ := named
    cases found : converter.filters.find? name with
    | none =>
        rw [applyFilter_of_unknown found] at failed
        cases failed
        rfl
    | some filter =>
        obtain missing | ⟨cause, caused⟩ | ⟨value, given⟩ := Attempt.outcomes
          (filter { source := current, root, strict := false, lookup := nested } arguments)
        · rw [applyFilter_of_none found missing] at failed
          cases failed
        · rw [applyFilter_of_failure found caused] at failed
          exact settle_lenient_kind failed
        · rw [applyFilter_of_result found given] at failed
          exact absurd failed.symm Attempt.throw_ne_pure
  · rw [applyFilter_of_nameless named] at failed
    exact absurd failed.symm Attempt.throw_ne_pure

theorem runStep_lenient_kind {step : Value}
    (failed : converter.runStep nested root false current step = throw failure) :
    failure.kind = .filterNotFound := by
  cases step with
  | string path =>
      obtain ⟨value, selected⟩ := select_lenient_total converter current path
      exact absurd (selected.symm.trans failed).symm Attempt.throw_ne_pure
  | list call => exact applyFilter_lenient_kind failed
  | null | bool | number | map | record => exact absurd failed.symm Attempt.throw_ne_pure

/-- Lookups that filters make can fail in any way; what comes of it is settled by the call. -/
theorem evaluate_lenient_kind
    (failed : converter.evaluate nested source key false = throw failure) :
    failure.kind = .filterNotFound := by
  cases key with
  | null => exact absurd failed.symm Attempt.throw_ne_pure
  | string path =>
      obtain ⟨value, selected⟩ := select_lenient_total converter source path
      exact absurd (selected.symm.trans failed).symm Attempt.throw_ne_pure
  | list steps =>
      by_cases container : source.isContainer
      · rw [evaluate_steps container] at failed
        exact Attempt.foldlM_fails (fun _ _ _ _ here => runStep_lenient_kind here) failed
      · rw [evaluate_uncontained container] at failed
        exact absurd failed.symm Attempt.throw_ne_pure
  | bool | number | map | record =>
      unfold evaluate at failed
      dsimp only at failed
      split at failed
      · exact absurd failed.symm Attempt.throw_ne_pure
      · exact absurd failed.symm Attempt.throw_ne_pure

theorem lookupWithin_lenient_kind {depth : Nat}
    (failed : converter.lookupWithin depth source key false = throw failure) :
    failure.kind = .filterNotFound := by
  cases depth with
  | zero => cases failed
  | succ depth => exact evaluate_lenient_kind failed

theorem evaluate_of_unknown (nested : Lookup) (container : source.isContainer) {name : String}
    (unknown : converter.filters.find? name = none) (before arguments after : List Value)
    (strict : Bool) :
    converter.evaluate nested source (.list (before ++ .list (.string name :: arguments) :: after))
        strict =
      (before.foldlM (converter.runStep nested source strict) source >>= fun _ =>
        throw (.filterNotFound name)) := by
  rw [evaluate_steps container, List.foldlM_append]
  apply bind_congr
  intro reached
  rw [List.foldlM_cons, runStep, applyFilter_of_unknown unknown]
  rfl

/-- A lenient lookup fails for unknown filters only, with any filters and at any depth of
nesting; and a pipeline that calls an unknown filter does fail so, wherever the call stands
and whatever the steps before it yield, just when those steps come to an end. -/
theorem lenient_failures (converter : Converter) (depth : Nat) (source : Value) :
    (∀ key failure, converter.lookupWithin depth source key false = throw failure →
      failure.kind = .filterNotFound) ∧
    (∀ before name arguments after, source.isContainer → converter.filters.find? name = none →
      ((∃ failure, failure.kind = .filterNotFound ∧ converter.lookupWithin (depth + 1) source
          (.list (before ++ .list (.string name :: arguments) :: after)) false = throw failure) ↔
        (before.foldlM (converter.runStep (converter.lookupWithin depth) source false)
          source).Answered)) := by
  refine ⟨fun key failure failed => lookupWithin_lenient_kind failed, ?_⟩
  intro before name arguments after container unknown
  have ended := evaluate_of_unknown (converter.lookupWithin depth) container unknown before
    arguments after false
  constructor
  · rintro ⟨failure, _, failed⟩
    rw [lookupWithin, ended] at failed
    obtain early | ⟨reached, here, _⟩ := Attempt.bind_eq_throw_iff.mp failed
    · rw [early]
      exact Attempt.answered_throw failure
    · rw [here]
      exact Attempt.answered_pure reached
  · intro answered
    rw [lookupWithin, ended]
    obtain ⟨failure, early⟩ | ⟨reached, here⟩ := answered.cases
    · rw [early]
      exact ⟨failure, Attempt.foldlM_fails (fun _ _ _ _ => runStep_lenient_kind) early, rfl⟩
    · rw [here]
      exact ⟨.filterNotFound name, rfl, rfl⟩

end

theorem find?_standard_unknown : Registry.standard.find? "nope" = none := by
  simp only [Registry.standard, List.foldl, Registry.find?_register]
  rfl

/-- The step before the unknown filter looks up strictly what is missing, and the lenient
pipeline passes over its failure. -/
theorem lenient_failures_after_failure :
    let converter : Converter := { filters := .standard }
    let source : Value := .map [("k", .string "missing")]
    let before : List Value := [.string "k", .list [.string "path", .bool true]]
    let steps : List Value := before ++ .list [.string "nope"] :: [.string "k"]
    source.isContainer = true ∧ converter.filters.find? "nope" = none ∧
      before.foldlM (converter.runStep (converter.lookupWithin 1) source false) source =
        pure .null ∧
      ∃ failure, converter.lookupWithin 2 source (.list steps) false = throw failure ∧
        failure.kind = .filterNotFound := by
  intro converter source before steps
  have selected : converter.select source "k" false = pure (.string "missing") :=
    select_of_read (by decide) rfl
      (Value.read_eq_of_resolve rfl (Value.resolve_keys_lenient .dot source ["k"]))
  obtain ⟨cause, missed⟩ : ∃ cause, source.read .dot true (.text "missing") = .error cause := by
    cases answered : source.read .dot true (.text "missing") with
    | error cause => exact ⟨cause, rfl⟩
    | ok value =>
        have found := (Value.read_strict_keys_iff .dot source ["missing"] rfl).mp answered
        contradiction
  have failed : converter.lookupWithin 1 source (.string "missing") true =
      throw (.cannotGet "missing" source cause) := by
    rw [lookupWithin_path]
    exact select_of_unread (by decide) rfl missed
  have settled : before.foldlM (converter.runStep (converter.lookupWithin 1) source false) source =
      pure .null := by
    rw [List.foldlM_cons, runStep, selected, pure_bind, List.foldlM_cons,
      runStep_path_of_failure Registry.find?_standard_path rfl failed]
    rfl
  have answered : (before.foldlM (converter.runStep (converter.lookupWithin 1) source false)
      source).Answered := by
    rw [settled]
    exact Attempt.answered_pure Value.null
  have unknowns := (lenient_failures converter 1 source).2 before "nope" [] [.string "k"] rfl
    find?_standard_unknown
  obtain ⟨failure, _, failed⟩ := unknowns.mpr answered
  exact ⟨rfl, find?_standard_unknown, settled, failure, failed,
    (lenient_failures converter 2 source).1 (.list steps) failure failed⟩

/-- The pipeline looks itself up before it gets to the unknown filter. -/
theorem unknown_filter_unreached :
    let key : Value := .list [.string "k", .list [.string "path"], .list [.string "nope"]]
    let source : Value := .map [("k", key)]
    let converter : Converter := { filters := .standard }
    source.isContainer = true ∧ converter.filters.find? "nope" = none ∧
      ¬ ∃ depth failure, converter.lookupWithin depth source key false = throw failure := by
  intro key source converter
  have read : source.read .dot false (.text "k") = .ok key :=
    Value.read_eq_of_resolve rfl (Value.resolve_keys_lenient .dot source ["k"])
  have reached : [Value.string "k"].foldlM
      (converter.runStep (converter.lookupWithin 0) source false) source = pure key := by
    rw [List.foldlM_cons, runStep, select_of_read (by decide) rfl read]
    rfl
  have self : converter.Asks source (key, Filter.lookupMode [] false)
      (.list ([.string "k"] ++ .list [.string "path"] :: [.list [.string "nope"]]), false) :=
    .intro rfl Registry.find?_standard_path reached rfl
  refine ⟨rfl, find?_standard_unknown, ?_⟩
  rintro ⟨depth, failure, failed⟩
  have answered : (converter.lookupWithin depth source key false).Answered := by
    rw [failed]
    exact Attempt.answered_throw failure
  exact not_acc_of_self self (acc_of_answered Registry.standard_builtIn answered)

end Converter

end Reshape
