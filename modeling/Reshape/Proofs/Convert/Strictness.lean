import Reshape.Proofs.Convert.Steps
import Reshape.Proofs.Filter.BuiltIn
import Reshape.Proofs.Read.Strictness

namespace Reshape

/-- What is found in strict mode is found in lenient mode. -/
def Lookup.Relaxes (lookup : Lookup) : Prop :=
  ∀ source key, (lookup source key true).SucceedsBelow (lookup source key false)

theorem Value.read_refines [Record.Accessors] {delimiter : Delimiter} {root value : Value}
    {path : PathForm}
    (answered : root.read delimiter true path = .ok value) :
    root.read delimiter false path = .ok value := by
  obtain ⟨tokens, parsed, resolution⟩ := bind_eq_ok_iff.mp answered
  obtain ⟨found, resolved, given⟩ := bind_eq_ok_iff.mp resolution
  cases given
  exact read_eq_of_resolve parsed (resolve_refines resolved)

/-- An argument of `path` fixes the mode of its lookup; without one both lookups are of the
key that the running value is. -/
theorem Filter.path_relaxes [Record.Accessors] {lookup : Lookup} (relaxes : lookup.Relaxes)
    (source root : Value)
    (arguments : List Value) :
    (path { source, root, strict := true, lookup } arguments).SucceedsBelow
      (path { source, root, strict := false, lookup } arguments) := by
  intro value given
  cases looked : looksUp source with
  | true =>
      rw [path_of_looksUp looked, ofLookup_eq_pure_iff] at given ⊢
      cases arguments with
      | nil => exact relaxes root source value given
      | cons first rest =>
          cases first with
          | bool fixed => exact given
          | null | number | string | list | map | record => exact relaxes root source value given
  | false =>
      cases source with
      | null => exact given
      | bool | number | map | record => exact absurd given Attempt.throw_ne_pure
      | string | list => contradiction

theorem Registry.BuiltIn.filter_relaxes [Record.Accessors] {registry : Registry}
    (builtIn : registry.BuiltIn)
    {name : String} {filter : Filter} (found : registry.find? name = some filter)
    {lookup : Lookup} (relaxes : lookup.Relaxes) (source root : Value) (arguments : List Value) :
    (filter { source, root, strict := true, lookup } arguments).SucceedsBelow
      (filter { source, root, strict := false, lookup } arguments) := by
  rcases builtIn.plain_or_path found with plain | rfl
  · have same := plain.modeless { source, root, strict := true, lookup } false arguments
    intro value given
    exact same.trans given
  · exact Filter.path_relaxes relaxes source root arguments

namespace Converter

section

variable [Record.Accessors] {converter : Converter} {nested lookup : Lookup}

theorem select_relaxes (source : Value) (path : String) :
    (converter.select source path true).SucceedsBelow (converter.select source path false) := by
  intro value ended
  unfold select at ended ⊢
  split
  · rename_i empty
    rwa [if_pos empty] at ended
  · rename_i named
    rw [if_neg named] at ended
    split
    · rename_i scalar
      rw [if_pos scalar] at ended
      exact absurd ended Attempt.throw_ne_pure
    · rename_i container
      rw [if_neg container] at ended
      cases answered : source.read converter.delimiter true (.text path) with
      | error cause =>
          rw [answered] at ended
          exact absurd ended Attempt.throw_ne_pure
      | ok found =>
          rw [answered] at ended
          rw [Value.read_refines answered]
          exact ended

theorem applyFilter_relaxes (builtIn : converter.filters.BuiltIn) (relaxes : nested.Relaxes)
    (current root : Value) (call : List Value) :
    (converter.applyFilter nested current root call true).SucceedsBelow
      (converter.applyFilter nested current root call false) := by
  intro value ended
  obtain ⟨name, arguments, filter, rfl, found, given⟩ | ⟨lenient, _⟩ := applyFilter_eq_pure ended
  · exact applyFilter_of_result found (builtIn.filter_relaxes found relaxes current root arguments
      value given)
  · contradiction

theorem runStep_relaxes (builtIn : converter.filters.BuiltIn) (relaxes : nested.Relaxes)
    (root current step : Value) :
    (converter.runStep nested root true current step).SucceedsBelow
      (converter.runStep nested root false current step) := by
  cases step with
  | string path => exact select_relaxes current path
  | list call => exact applyFilter_relaxes builtIn relaxes current root call
  | null | bool | number | map | record =>
      intro value ended
      exact absurd ended Attempt.throw_ne_pure

theorem evaluate_relaxes (builtIn : converter.filters.BuiltIn) (relaxes : nested.Relaxes) :
    Lookup.Relaxes (converter.evaluate nested) := by
  intro source key
  cases key with
  | null => exact fun value ended => ended
  | string path => exact select_relaxes source path
  | list steps =>
      by_cases container : source.isContainer
      · rw [evaluate_steps container, evaluate_steps container]
        exact Attempt.SucceedsBelow.foldlM (runStep_relaxes builtIn relaxes source) source steps
      · rw [evaluate_uncontained container, evaluate_uncontained container]
        intro value ended
        exact absurd ended Attempt.throw_ne_pure
  | bool | number | map | record =>
      intro value ended
      unfold evaluate at ended
      dsimp only at ended
      split at ended
      · exact absurd ended Attempt.throw_ne_pure
      · exact absurd ended Attempt.throw_ne_pure

theorem lookupWithin_relaxes (builtIn : converter.filters.BuiltIn) (depth : Nat) :
    Lookup.Relaxes (converter.lookupWithin depth) := by
  induction depth with
  | zero => exact fun source key value ended => absurd ended Attempt.none_ne_pure
  | succ depth ih => exact evaluate_relaxes builtIn ih

/-- The same values are written in both modes, so that one mode refuses a write where the
other does. -/
theorem convertEntries_relaxes (relaxes : lookup.Relaxes) (source output : Value)
    (entries : List (String × Value)) :
    (converter.convertEntries lookup source true output entries).SucceedsBelow
      (converter.convertEntries lookup source false output entries) := by
  induction entries generalizing output with
  | nil => exact fun value ended => ended
  | cons entry rest ih =>
      obtain ⟨target, spec⟩ := entry
      apply (relaxes source spec).bind
      intro value result ended
      split
      · rename_i empty
        rwa [if_pos empty] at ended
      · rename_i named
        rw [if_neg named] at ended
        dsimp only at ended ⊢
        split
        · rename_i failure refused
          rw [refused] at ended
          exact absurd ended Attempt.throw_ne_pure
        · rename_i completed
          rw [completed] at ended
          exact ih _ result ended

/-- With the standard filters, a strict conversion or lookup that gives a value gives the
same value in lenient mode, at whatever depth the lookups of filters may nest. -/
theorem convert_lenient_of_strict (delimiter : Delimiter) (depth : Nat) (source value : Value) :
    let converter : Converter := { filters := .standard, delimiter }
    (∀ schema, converter.convertWithin depth source schema true = pure value →
      converter.convertWithin depth source schema false = pure value) ∧
    (∀ key, converter.lookupWithin depth source key true = pure value →
      converter.lookupWithin depth source key false = pure value) := by
  intro converter
  have relaxes : Lookup.Relaxes (converter.lookupWithin depth) :=
    lookupWithin_relaxes Registry.standard_builtIn depth
  refine ⟨?_, ?_⟩
  · intro schema
    exact convertEntries_relaxes relaxes source (.map []) schema.entries value
  · intro key
    exact relaxes source key value

end

/-- The value of `k` is itself a path, looked up in the mode of the conversion and in one
that the argument fixes. -/
theorem convert_lenient_of_strict_nested :
    let source : Value := .map [("k", .string "a.b"), ("a", .map [("b", .bool true)])]
    let nested : Value := .list [.string "k", .list [.string "path"]]
    let fixed : Value := .list [.string "k", .list [.string "path", .bool false]]
    let schema : Schema := { entries := [("out", nested), ("lax", fixed)] }
    let converter : Converter := { filters := .standard }
    let result : Value := .map [("out", .bool true), ("lax", .bool true)]
    (converter.convertWithin 2 source schema true = pure result ∧
        converter.convertWithin 2 source schema false = pure result) ∧
      (converter.lookupWithin 2 source nested true = pure (.bool true) ∧
        converter.lookupWithin 2 source nested false = pure (.bool true)) := by
  intro source nested fixed schema converter result
  have selected : converter.select source "k" true = pure (.string "a.b") :=
    select_of_read (by decide) rfl ((Value.read_strict_keys_iff .dot source ["k"] rfl).mpr rfl)
  have read : source.read .dot true (.text "a.b") = .ok (.bool true) :=
    (Value.read_strict_keys_iff .dot source ["a", "b"] rfl).mpr rfl
  have strictly : converter.lookupWithin 1 source (.string "a.b") true = pure (.bool true) := by
    rw [lookupWithin_path]
    exact select_of_read (by decide) rfl read
  have leniently : converter.lookupWithin 1 source (.string "a.b") false = pure (.bool true) := by
    rw [lookupWithin_path]
    exact select_of_read (by decide) rfl (Value.read_refines read)
  have followed (arguments : List Value) (given : converter.lookupWithin 1 source (.string "a.b")
      (Filter.lookupMode arguments true) = pure (.bool true)) :
      converter.lookupWithin 2 source
        (.list [.string "k", .list (.string "path" :: arguments)]) true = pure (.bool true) := by
    rw [lookupWithin, evaluate_steps rfl, List.foldlM_cons, runStep, selected, pure_bind,
      List.foldlM_cons, runStep_path_of_result Registry.find?_standard_path rfl given]
    rfl
  have looked : converter.lookupWithin 2 source nested true = pure (.bool true) :=
    followed [] strictly
  have converted : converter.convertWithin 2 source schema true = pure result := by
    have first : (Value.map []).writeSet .dot (.text "out") (.bool true) =
        { root := .map [("out", .bool true)] } := rfl
    have second : (Value.map [("out", .bool true)]).writeSet .dot (.text "lax") (.bool true) =
        { root := result } := rfl
    simp only [convertWithin, schema]
    rw [convertEntries_cons_of_written looked (by decide) first rfl,
      convertEntries_cons_of_written (followed [.bool false] leniently) (by decide) second rfl]
    rfl
  exact ⟨⟨converted, (convert_lenient_of_strict .dot 2 source result).1 schema converted⟩,
    ⟨looked, (convert_lenient_of_strict .dot 2 source (.bool true)).2 nested looked⟩⟩

end Converter

end Reshape
