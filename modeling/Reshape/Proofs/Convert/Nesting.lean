import Reshape.Proofs.Convert.Steps
import Reshape.Proofs.Filter.BuiltIn
import Reshape.Proofs.Read.Strictness
/-!
How lookups nest. The filter `path` takes its key from the running value, so the data of
the source decides which lookup asks for which other one. A conversion comes to an end
just where no entry that it gets to starts a chain of lookups without end.
-/

namespace Reshape

/-- Where the first lookup has an answer the second has the same. -/
def Lookup.Below (first second : Lookup) : Prop :=
  ∀ source key strict, (first source key strict).Below (second source key strict)

theorem Filter.ofLookup_below {first second : Attempt Error Value} (below : first.Below second) :
    (ofLookup first).Below (ofLookup second) := by
  intro outcome ended
  obtain ⟨held, answer, mapped⟩ := Option.map_eq_some_iff.mp ended
  exact Option.map_eq_some_iff.mpr ⟨held, below held answer, mapped⟩

theorem Registry.BuiltIn.filter_below [Record.Accessors] {registry : Registry}
    (builtIn : registry.BuiltIn)
    {name : String} {filter : Filter} (found : registry.find? name = some filter)
    (context : FilterContext) {second : Lookup} (below : context.lookup.Below second)
    (arguments : List Value) :
    (filter context arguments).Below (filter { context with lookup := second } arguments) := by
  rcases builtIn.plain_or_path found with plain | rfl
  · have same := plain.independent context second arguments
    rw [same]
    exact .refl _
  · obtain ⟨source, root, strict, lookup⟩ := context
    cases source with
    | string text => exact Filter.ofLookup_below (below root (.string text) _)
    | list steps => exact Filter.ofLookup_below (below root (.list steps) _)
    | null | bool | number | map | record => exact .refl _

namespace Converter

theorem not_acc_of_self {α : Type} {relation : α → α → Prop} {point : α}
    (self : relation point point) : ¬ Acc relation point := by
  intro accessible
  induction accessible with
  | intro point _ ih => exact ih point self self

section

variable [Record.Accessors] {converter : Converter} {source current root key : Value}
  {strict : Bool}

section Growth

variable {first second : Lookup}

theorem applyFilter_below (builtIn : converter.filters.BuiltIn) (below : first.Below second)
    (current root : Value) (call : List Value) (strict : Bool) :
    (converter.applyFilter first current root call strict).Below
      (converter.applyFilter second current root call strict) := by
  by_cases named : ∃ name arguments, call = .string name :: arguments
  · obtain ⟨name, arguments, rfl⟩ := named
    cases found : converter.filters.find? name with
    | none =>
        rw [applyFilter_of_unknown found, applyFilter_of_unknown found]
        exact .refl _
    | some filter =>
        let context : FilterContext := { source := current, root, strict, lookup := first }
        have grown := builtIn.filter_below found context below arguments
        obtain missing | ⟨failure, failed⟩ | ⟨value, given⟩ := (filter context arguments).outcomes
        · rw [applyFilter_of_none found missing]
          intro outcome ended
          contradiction
        · rw [applyFilter_of_failure found failed, applyFilter_of_failure found (grown _ failed)]
          exact .refl _
        · rw [applyFilter_of_result found given, applyFilter_of_result found (grown.pure given)]
          exact .refl _
  · rw [applyFilter_of_nameless named, applyFilter_of_nameless named]
    exact .refl _

theorem runStep_below (builtIn : converter.filters.BuiltIn) (below : first.Below second)
    (root : Value) (strict : Bool) (current step : Value) :
    (converter.runStep first root strict current step).Below
      (converter.runStep second root strict current step) := by
  cases step with
  | list call => exact applyFilter_below builtIn below current root call strict
  | null | bool | number | string | map | record => exact .refl _

theorem evaluate_below (builtIn : converter.filters.BuiltIn) (below : first.Below second) :
    Lookup.Below (converter.evaluate first) (converter.evaluate second) := by
  intro source key strict
  cases key with
  | list steps =>
      by_cases container : source.isContainer
      · rw [evaluate_steps container, evaluate_steps container]
        exact Attempt.Below.foldlM (runStep_below builtIn below source strict) source steps
      · rw [evaluate_uncontained container, evaluate_uncontained container]
        exact .refl _
  | null | bool | number | string | map | record => exact .refl _

theorem lookupWithin_growing (builtIn : converter.filters.BuiltIn) (source key : Value)
    (strict : Bool) : Attempt.Growing (converter.lookupWithin · source key strict) := by
  intro first second within
  induction first generalizing second source key strict with
  | zero =>
      intro outcome ended
      contradiction
  | succ first ih =>
      cases second with
      | zero => contradiction
      | succ second =>
          exact evaluate_below builtIn
            (fun source key strict => ih source key strict second (Nat.le_of_succ_le_succ within))
            source key strict

theorem runStep_growing (builtIn : converter.filters.BuiltIn) (source : Value) (strict : Bool)
    (current step : Value) :
    Attempt.Growing (fun depth =>
      converter.runStep (converter.lookupWithin depth) source strict current step) :=
  fun first second within => runStep_below builtIn
    (fun source key strict => lookupWithin_growing builtIn source key strict first second within)
    source strict current step

theorem convertEntries_growing (builtIn : converter.filters.BuiltIn) (source : Value)
    (strict : Bool) (output : Value) (entries : List (String × Value)) :
    Attempt.Growing (fun depth =>
      converter.convertEntries (converter.lookupWithin depth) source strict output entries) := by
  intro first second within
  induction entries generalizing output with
  | nil => exact .refl _
  | cons entry rest ih =>
      obtain ⟨target, spec⟩ := entry
      apply (lookupWithin_growing builtIn source spec strict first second within).bind
      intro value
      split
      · exact .refl _
      · dsimp only
        split
        · exact .refl _
        · exact ih _

end Growth

/-- A lookup of the source asks for another one: its pipeline gets to a call of `path` where
the running value is the other key. The argument of the call may change the mode. -/
inductive Asks (converter : Converter) (source : Value) : Value × Bool → Value × Bool → Prop
  | intro {before after arguments : List Value} {name : String} {key : Value} {strict : Bool}
      {depth : Nat} (container : source.isContainer)
      (found : converter.filters.find? name = some Filter.path)
      (reached : before.foldlM (converter.runStep (converter.lookupWithin depth) source strict)
        source = pure key)
      (looked : Filter.looksUp key) :
      Asks converter source (key, Filter.lookupMode arguments strict)
        (.list (before ++ .list (.string name :: arguments) :: after), strict)

theorem answered_of_asks (builtIn : converter.filters.BuiltIn) {depth : Nat}
    {inner outer : Value × Bool} (asked : converter.Asks source inner outer)
    (answered : (converter.lookupWithin (depth + 1) source outer.1 outer.2).Answered) :
    (converter.lookupWithin depth source inner.1 inner.2).Answered := by
  cases asked with
  | @intro before after arguments name key strict limit container found reached looked =>
      rw [lookupWithin, evaluate_steps container] at answered
      have called := Attempt.Growing.answered_step (runStep_growing builtIn source strict)
        answered reached
      have given := (answered_applyFilter_iff found).mp called
      rw [Filter.path_of_looksUp looked] at given
      exact Filter.answered_ofLookup_iff.mp given

theorem acc_of_answered (builtIn : converter.filters.BuiltIn) {depth : Nat}
    {query : Value × Bool}
    (answered : (converter.lookupWithin depth source query.1 query.2).Answered) :
    Acc (converter.Asks source) query := by
  induction depth generalizing query with
  | zero => exact absurd answered Attempt.not_answered_none
  | succ depth ih =>
      constructor
      intro inner asked
      exact ih (answered_of_asks builtIn asked answered)

theorem runStep_ends (builtIn : converter.filters.BuiltIn) {step : Value}
    (endsBelow : ∀ name arguments, step = .list (.string name :: arguments) →
      converter.filters.find? name = some Filter.path → Filter.looksUp current →
      Attempt.Ends (converter.lookupWithin · source current (Filter.lookupMode arguments strict))) :
    Attempt.Ends (fun depth =>
      converter.runStep (converter.lookupWithin depth) source strict current step) := by
  by_cases called : ∃ name arguments filter, step = .list (.string name :: arguments) ∧
      converter.filters.find? name = some filter
  · obtain ⟨name, arguments, filter, rfl, found⟩ := called
    rcases builtIn.plain_or_path found with plain | rfl
    · exact ⟨0, (answered_applyFilter_iff found).mpr (plain.answered _ arguments)⟩
    · cases looked : Filter.looksUp current with
      | true =>
          obtain ⟨depth, answered⟩ := endsBelow name arguments rfl found looked
          refine ⟨depth, (answered_applyFilter_iff found).mpr ?_⟩
          rw [Filter.path_of_looksUp looked]
          exact Filter.answered_ofLookup_iff.mpr answered
      | false =>
          exact ⟨0, (answered_applyFilter_iff found).mpr
            (Filter.answered_path_of_not_looksUp looked arguments)⟩
  · exact ⟨0, answered_runStep fun name arguments filter same found =>
      called ⟨name, arguments, filter, same, found⟩⟩

theorem evaluate_ends (builtIn : converter.filters.BuiltIn)
    (endsBelow : ∀ inner, converter.Asks source inner (key, strict) →
      Attempt.Ends (converter.lookupWithin · source inner.1 inner.2)) :
    Attempt.Ends (fun depth =>
      converter.evaluate (converter.lookupWithin depth) source key strict) := by
  by_cases listed : ∃ steps, key = .list steps
  · obtain ⟨steps, rfl⟩ := listed
    by_cases container : source.isContainer
    · simp only [evaluate_steps container]
      apply Attempt.Growing.ends_foldlM (runStep_growing builtIn source strict)
      intro before step after depth current declared reached
      apply runStep_ends builtIn
      intro name arguments called found looked
      subst called declared
      exact endsBelow (current, _) (.intro container found reached looked)
    · simp only [evaluate_uncontained container]
      exact ⟨0, answered_refusal _ strict⟩
  · exact ⟨0, answered_evaluate fun steps same => listed ⟨steps, same⟩⟩

theorem ends_of_acc (builtIn : converter.filters.BuiltIn) {query : Value × Bool}
    (accessible : Acc (converter.Asks source) query) :
    Attempt.Ends (converter.lookupWithin · source query.1 query.2) := by
  induction accessible with
  | intro query _ ih =>
      obtain ⟨depth, answered⟩ := evaluate_ends builtIn ih
      exact ⟨depth + 1, answered⟩

/-- The conversion gets past these entries to the one that follows them. -/
structure Passes (converter : Converter) (source : Value) (strict : Bool) (output : Value)
    (before : List (String × Value)) : Prop where
  named : ∀ entry ∈ before, entry.1 ≠ ""
  written : ∃ depth reached, converter.convertEntries (converter.lookupWithin depth) source strict
    output before = pure reached

section Entries

variable {output : Value} {target : String} {spec : Value}

theorem Passes.cons (builtIn : converter.filters.BuiltIn) {depth : Nat} {value : Value}
    {before : List (String × Value)}
    (found : converter.lookupWithin depth source spec strict = pure value) (nonempty : target ≠ "")
    (completed : (output.writeSet converter.delimiter (.text target) value).failure = none)
    (passes : converter.Passes source strict
      (output.writeSet converter.delimiter (.text target) value).root before) :
    converter.Passes source strict output ((target, spec) :: before) := by
  obtain ⟨named, later, reached, ended⟩ := passes
  refine ⟨List.forall_mem_cons.mpr ⟨nonempty, named⟩, max depth later, reached, ?_⟩
  have here := (lookupWithin_growing builtIn source spec strict depth _
    (Nat.le_max_left depth later)).pure found
  rw [convertEntries_cons_of_written here nonempty rfl completed]
  exact (convertEntries_growing builtIn source strict _ before later _
    (Nat.le_max_right depth later)).pure ended

theorem answered_entry (builtIn : converter.filters.BuiltIn) {depth : Nat}
    {before after : List (String × Value)} (passes : converter.Passes source strict output before)
    (answered : (converter.convertEntries (converter.lookupWithin depth) source strict output
      (before ++ (target, spec) :: after)).Answered) :
    (converter.lookupWithin depth source spec strict).Answered := by
  obtain ⟨named, limit, reached, ended⟩ := passes
  rw [convertEntries_append named] at answered
  obtain ⟨answeredBefore, onward⟩ := Attempt.answered_bind_iff.mp answered
  have here := (convertEntries_growing builtIn source strict output before).eq_pure_of_answered
    answeredBefore ended
  exact (Attempt.answered_bind_iff.mp (onward reached here)).1

theorem convertEntries_ends (builtIn : converter.filters.BuiltIn)
    {entries : List (String × Value)}
    (endsAt : ∀ before target spec after, entries = before ++ (target, spec) :: after →
      converter.Passes source strict output before →
      Attempt.Ends (converter.lookupWithin · source spec strict)) :
    Attempt.Ends (fun depth =>
      converter.convertEntries (converter.lookupWithin depth) source strict output entries) := by
  induction entries generalizing output with
  | nil => exact ⟨0, Attempt.answered_pure output⟩
  | cons entry rest ih =>
      obtain ⟨target, spec⟩ := entry
      obtain ⟨depth, answered⟩ := endsAt [] target spec rest rfl ⟨by simp, 0, output, rfl⟩
      obtain ⟨failure, failed⟩ | ⟨value, found⟩ := answered.cases
      · exact ⟨depth, _, congrArg ExceptT.run (convertEntries_cons_of_failure failed)⟩
      · by_cases empty : target = ""
        · subst empty
          exact ⟨depth, _, congrArg ExceptT.run (convertEntries_cons_of_empty found)⟩
        · cases completed : (output.writeSet converter.delimiter (.text target) value).failure with
          | some failure =>
              exact ⟨depth, _, congrArg ExceptT.run
                (convertEntries_cons_of_refused found empty rfl completed)⟩
          | none =>
              obtain ⟨later, answeredAfter⟩ := ih fun before _ _ _ declared passes =>
                endsAt ((target, spec) :: before) _ _ _ (congrArg ((target, spec) :: ·) declared)
                  (passes.cons builtIn found empty completed)
              refine ⟨max depth later, ?_⟩
              have here := (lookupWithin_growing builtIn source spec strict depth _
                (Nat.le_max_left depth later)).pure found
              have onward := convertEntries_growing builtIn source strict
                (output.writeSet converter.delimiter (.text target) value).root rest later _
                (Nat.le_max_right depth later)
              dsimp only
              rw [convertEntries_cons_of_written here empty rfl completed]
              exact onward.answered answeredAfter

end Entries

/-- A conversion with the standard filters comes to an end just where each entry that it
gets to starts only finite chains of lookups. -/
theorem convert_ends_iff (delimiter : Delimiter) (source : Value) (schema : Schema)
    (strict : Bool) :
    let converter : Converter := { filters := .standard, delimiter }
    Attempt.Ends (converter.convertWithin · source schema strict) ↔
      ∀ before target spec after, schema.entries = before ++ (target, spec) :: after →
        converter.Passes source strict (.map []) before →
        Acc (converter.Asks source) (spec, strict) := by
  intro converter
  have builtIn : converter.filters.BuiltIn := Registry.standard_builtIn
  constructor
  · rintro ⟨depth, answered⟩ before target spec after declared passes
    unfold convertWithin at answered
    rw [declared] at answered
    exact acc_of_answered builtIn (answered_entry builtIn passes answered)
  · intro accessible
    apply convertEntries_ends builtIn
    intro before target spec after declared passes
    exact ends_of_acc builtIn (accessible before target spec after declared passes)

end

/-- The source holds the very pipeline that looks it up. -/
theorem convert_endless :
    let key : Value := .list [.string "k", .list [.string "path"]]
    let source : Value := .map [("k", key)]
    let schema : Schema := { entries := [("out", key)] }
    let converter : Converter := { filters := .standard }
    ¬ Attempt.Ends (converter.convertWithin · source schema false) := by
  intro key source schema converter
  rintro ⟨depth, answered⟩
  have builtIn : converter.filters.BuiltIn := Registry.standard_builtIn
  have looked : (converter.lookupWithin depth source key false).Answered :=
    (Attempt.answered_bind_iff.mp answered).1
  have read : source.read .dot false (.text "k") = .ok key :=
    Value.read_eq_of_resolve rfl (Value.resolve_keys_lenient .dot source ["k"])
  have reached : [Value.string "k"].foldlM
      (converter.runStep (converter.lookupWithin 0) source false) source = pure key := by
    rw [List.foldlM_cons, runStep, select_of_read (by decide) rfl read]
    rfl
  have self : converter.Asks source (key, Filter.lookupMode [] false)
      (.list ([.string "k"] ++ [.list [.string "path"]]), false) :=
    .intro rfl Registry.find?_standard_path reached rfl
  exact not_acc_of_self self (acc_of_answered builtIn looked)

end Converter

end Reshape
