import Reshape.Proofs.Convert.Steps
import Reshape.Proofs.Filter.Observation
import Reshape.Proofs.Write.Congruence

namespace Reshape.Converter

open Value

variable [Record.Accessors] {converter : Converter} {related : Value → Value → Prop}
  {nested further : Lookup}
  {left right root top : Value} {strict : Bool}

theorem settle_lookup (name : String) (strict : Bool) (failure : Error) :
    settle name strict (.lookup failure) =
      if failure.kind = .filterNotFound then throw failure
      else if strict then throw (.filterFailed name failure.messages) else pure .null := by
  cases failure with
  | access failure => cases failure <;> rfl
  | path failure => cases failure <;> rfl
  | unsupportedSource | unsupportedKey | malformedStep | filterNotFound | filterFailed
  | cannotGet => rfl

variable (observation : Observation related)

include observation

theorem agree_refusal {failure other : Error} (matched : failure.Matches other) (strict : Bool) :
    Attempt.Agree Error.Matches related (if strict then throw failure else pure .null)
      (if strict then throw other else pure .null) := by
  split
  · exact .failed matched
  · exact .ended (observation.leaf rfl)

theorem agree_rejectSource (same : related left right) (strict : Bool) :
    Attempt.Agree Error.Matches related (rejectSource left strict) (rejectSource right strict) := by
  unfold rejectSource
  rw [observation.typeName_eq same]
  exact agree_refusal observation (.refl _) strict

theorem agree_select (same : related left right) (path : String) (strict : Bool) :
    Attempt.Agree Error.Matches related (converter.select left path strict)
      (converter.select right path strict) := by
  unfold select
  rw [observation.isContainer_eq_right same]
  split
  · exact .ended same
  · split
    · exact agree_rejectSource observation same strict
    · have found : Alike related (left.read converter.delimiter strict (.text path))
          (right.read converter.delimiter strict (.text path)) :=
        observation.read (observation.leaf rfl) same strict (.text path)
      revert found
      cases left.read converter.delimiter strict (.text path) <;>
        cases right.read converter.delimiter strict (.text path)
      · rintro rfl
        exact .failed ⟨rfl, rfl⟩
      · exact False.elim
      · exact False.elim
      · exact fun held => .ended held

theorem agree_malformed (same : related left right) {fault other : StepFault}
    (equal : fault = other) (strict : Bool) :
    Attempt.Agree Error.Matches related (malformed fault left strict)
      (malformed other right strict) := by
  subst equal
  exact agree_refusal observation
    (Error.malformedStep_matches fault (observation.text_eq same)) strict

theorem agree_settle (name : String) (strict : Bool) {failure other : FilterFailure}
    (matched : failure.Matches other) :
    Attempt.Agree Error.Matches related (settle name strict failure)
      (settle name strict other) := by
  cases matched with
  | fault cause => exact agree_refusal observation (.refl _) strict
  | lookup same =>
      rw [settle_lookup, settle_lookup, same.kind, same.messages]
      split
      · exact .failed same
      · exact agree_refusal observation (.refl _) strict

theorem agree_applyFilter (builtIn : converter.filters.BuiltIn)
    (lookups : Lookup.Agree related nested further) (same : related left right)
    (roots : related root top) {call other : List Value}
    (each : List.Forall₂ related call other) (strict : Bool) :
    Attempt.Agree Error.Matches related (converter.applyFilter nested left root call strict)
      (converter.applyFilter further right top other strict) := by
  have calls : related (.list call) (.list other) := observation.list each
  cases each with
  | nil => exact agree_malformed observation calls rfl strict
  | @cons first second arguments others here given =>
      cases observation.paired here with
      | list | map | record => exact agree_malformed observation calls rfl strict
      | leaf _ =>
          cases first with
          | null | bool | number | list | map | record =>
              exact agree_malformed observation calls rfl strict
          | string name =>
              cases found : converter.filters.find? name with
              | none =>
                  rw [applyFilter_of_unknown found, applyFilter_of_unknown found]
                  exact .failed (.refl _)
              | some filter =>
                  have outcomes := builtIn.agrees found observation
                    { source := left, root, strict, lookup := nested }
                    { source := right, root := top, strict, lookup := further }
                    arguments others ⟨same, roots, rfl, lookups⟩ given
                  generalize ran : filter { source := left, root, strict, lookup := nested }
                    arguments = outcome at outcomes
                  generalize also : filter { source := right, root := top, strict, lookup := further }
                    others = partner at outcomes
                  cases outcomes with
                  | unanswered =>
                      rw [applyFilter_of_none found ran, applyFilter_of_none found also]
                      exact .unanswered
                  | failed matched =>
                      rw [applyFilter_of_failure found ran, applyFilter_of_failure found also]
                      exact agree_settle observation name strict matched
                  | ended held =>
                      rw [applyFilter_of_result found ran, applyFilter_of_result found also]
                      exact .ended held

theorem agree_runStep (builtIn : converter.filters.BuiltIn)
    (lookups : Lookup.Agree related nested further) (roots : related root top)
    (same : related left right) {step other : Value} (steps : related step other) :
    Attempt.Agree Error.Matches related (converter.runStep nested root strict left step)
      (converter.runStep further top strict right other) := by
  cases observation.paired steps with
  | list each => exact agree_applyFilter observation builtIn lookups same roots each strict
  | map | record => exact agree_malformed observation steps rfl strict
  | leaf _ =>
      cases step with
      | string path => exact agree_select observation same path strict
      | null | bool | number => exact agree_malformed observation steps rfl strict
      | list | map | record => contradiction

theorem agree_evaluate (builtIn : converter.filters.BuiltIn)
    (lookups : Lookup.Agree related nested further) :
    Lookup.Agree related (converter.evaluate nested) (converter.evaluate further) := by
  intro source other key partner strict same keys
  have matched := Error.unsupportedKey_matches (observation.typeName_eq keys)
    (observation.text_eq keys)
  have refused : Attempt.Agree Error.Matches related
      (if !source.isContainer then rejectSource source strict
        else if strict then throw (.unsupportedKey key) else pure .null)
      (if !other.isContainer then rejectSource other strict
        else if strict then throw (.unsupportedKey partner) else pure .null) := by
    rw [observation.isContainer_eq_right same]
    split
    · exact agree_rejectSource observation same strict
    · exact agree_refusal observation matched strict
  cases observation.paired keys with
  | leaf _ =>
      cases key with
      | null => exact .ended same
      | string path => exact agree_select observation same path strict
      | bool | number => exact refused
      | list | map | record => contradiction
  | list each =>
      rw [evaluate, evaluate, observation.isContainer_eq_right same]
      split
      · exact Attempt.Agree.foldlM each (fun _ _ _ _ reached steps =>
          agree_runStep observation builtIn lookups same reached steps) same
      · exact agree_rejectSource observation same strict
  | map | record => exact refused

theorem agree_lookupWithin (builtIn : converter.filters.BuiltIn) (depth : Nat) :
    Lookup.Agree related (converter.lookupWithin depth) (converter.lookupWithin depth) := by
  induction depth with
  | zero => exact fun _ _ _ _ _ _ _ => .unanswered
  | succ depth ih => exact agree_evaluate observation builtIn ih

omit observation

theorem holds_of_lookupWithin {holds : Value → Prop}
    (kept : Observation fun left right => holds left ∧ left = right)
    (builtIn : converter.filters.BuiltIn) {depth : Nat} {source key result : Value}
    (sourceHolds : holds source) (keyHolds : holds key)
    (ended : converter.lookupWithin depth source key strict = pure result) : holds result :=
  ((agree_lookupWithin kept builtIn depth source source key key strict ⟨sourceHolds, rfl⟩
    ⟨keyHolds, rfl⟩).of_pure ended ended).1

variable {output partner : Value} {entries : List (String × Value)}

theorem agree_convertEntries (congruence : Congruence related)
    (lookups : Lookup.Agree related nested further) (same : related left right)
    (outputs : related output partner) (specs : ∀ entry ∈ entries, related entry.2 entry.2)
    (strict : Bool) :
    Attempt.Agree Error.Matches related
      (converter.convertEntries nested left strict output entries)
      (converter.convertEntries further right strict partner entries) := by
  induction entries generalizing output partner with
  | nil => exact .ended outputs
  | cons entry rest ih =>
      obtain ⟨target, spec⟩ := entry
      obtain ⟨first, others⟩ := List.forall_mem_cons.mp specs
      refine (lookups left right spec spec strict same first).bind fun value found held => ?_
      split
      · exact .ended held
      · have written : Written.Agree related
            (output.writeSet converter.delimiter (.text target) value)
            (partner.writeSet converter.delimiter (.text target) found) :=
          congruence.writeSet_agree outputs _ held
        dsimp only
        rw [← written.1]
        split
        · exact .failed (.refl _)
        · rename_i completed
          exact ih (written.2 completed) others

theorem agree_convertWithin (congruence : Congruence related)
    (builtIn : converter.filters.BuiltIn) (same : related left right) {schema : Schema}
    (specs : ∀ entry ∈ schema.entries, related entry.2 entry.2) (depth : Nat) (strict : Bool) :
    Attempt.Agree Error.Matches related (converter.convertWithin depth left schema strict)
      (converter.convertWithin depth right schema strict) :=
  agree_convertEntries congruence
    (agree_lookupWithin congruence.toObservation builtIn depth) same congruence.map specs strict

end Reshape.Converter
