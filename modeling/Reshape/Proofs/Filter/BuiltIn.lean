import Reshape.Filter.Standard
import Reshape.Proofs.Attempt

namespace Reshape

def FilterContext.bare : FilterContext where
  source := .null
  root := .null
  strict := false
  lookup _ _ _ := ExceptT.mk none

namespace Filter

/-- The mode in which `path` looks up, which its first argument may override. -/
def lookupMode (arguments : List Value) (strict : Bool) : Bool :=
  match arguments with
  | .bool given :: _ => given
  | _ => strict

/-- The running values that `path` looks up. -/
def looksUp : Value → Bool
  | .string _ | .list _ => true
  | _ => false

section Path

variable {context : FilterContext}

theorem path_of_looksUp (looked : looksUp context.source) (arguments : List Value) :
    path context arguments =
      ofLookup (context.lookup context.root context.source
        (lookupMode arguments context.strict)) := by
  obtain ⟨source, root, strict, lookup⟩ := context
  cases source with
  | string | list => rfl
  | null | bool | number | map | record => contradiction

theorem path_of_not_looksUp (unlooked : looksUp context.source = false) (arguments : List Value) :
    path context arguments = pure .null ∨ ∃ failure, path context arguments = throw failure := by
  obtain ⟨source, root, strict, lookup⟩ := context
  cases source with
  | null => exact .inl rfl
  | bool | number | map | record => exact .inr ⟨_, rfl⟩
  | string | list => contradiction

theorem answered_path_of_not_looksUp (unlooked : looksUp context.source = false)
    (arguments : List Value) : (path context arguments).Answered := by
  obtain absent | ⟨failure, failed⟩ := path_of_not_looksUp unlooked arguments
  · rw [absent]
    exact Attempt.answered_pure _
  · rw [failed]
    exact Attempt.answered_throw failure

end Path

theorem answered_ofLookup_iff {attempt : Attempt Error Value} :
    (ofLookup attempt).Answered ↔ attempt.Answered := by
  obtain rfl | ⟨failure, rfl⟩ | ⟨value, rfl⟩ := Attempt.outcomes attempt
  · exact iff_of_false Attempt.not_answered_none Attempt.not_answered_none
  · exact iff_of_true ⟨_, rfl⟩ (Attempt.answered_throw failure)
  · exact iff_of_true ⟨_, rfl⟩ (Attempt.answered_pure value)

theorem ofPure_eq_pure_iff {body : FilterContext → List Value → Except FilterFault Value}
    {context : FilterContext} {arguments : List Value} {result : Value} :
    ofPure body context arguments = pure result ↔ body context arguments = .ok result := by
  unfold ofPure
  cases body context arguments with
  | error fault => exact iff_of_false Attempt.throw_ne_pure (by simp)
  | ok value => exact Attempt.pure_eq_pure_iff.trans (by simp)

theorem ofLookup_eq_pure_iff {attempt : Attempt Error Value} {result : Value} :
    ofLookup attempt = pure result ↔ attempt = pure result := by
  obtain rfl | ⟨failure, rfl⟩ | ⟨value, rfl⟩ := attempt.outcomes
  · exact iff_of_false Attempt.none_ne_pure Attempt.none_ne_pure
  · exact iff_of_false Attempt.throw_ne_pure Attempt.throw_ne_pure
  · exact Attempt.pure_eq_pure_iff.trans Attempt.pure_eq_pure_iff.symm

/-- A filter whose answer depends neither on what can be looked up nor on the mode. -/
structure Plain (filter : Filter) : Prop where
  answered : ∀ context arguments, (filter context arguments).Answered
  independent : ∀ (context : FilterContext) (lookup : Lookup) (arguments : List Value),
    filter { context with lookup } arguments = filter context arguments
  modeless : ∀ (context : FilterContext) (strict : Bool) (arguments : List Value),
    filter { context with strict } arguments = filter context arguments

end Filter

namespace Registry

variable {name : String} {filter : Filter}

theorem find?_register (registry : Registry) (name other : String) (filter : Filter) :
    (registry.register name filter).find? other =
      if name = other then some filter else registry.find? other := by
  unfold find? register
  induction registry.filters with
  | nil => simp [place, Entries.get?]
  | cons entry rest ih =>
      obtain ⟨found, old⟩ := entry
      unfold place
      split
      · simp [Entries.get?]
      · split
        · rename_i same
          subst same
          by_cases given : name = other <;> simp [Entries.get?, given]
        · rename_i different
          by_cases held : found = other
          · subst held
            simp [Entries.get?, different]
          · simpa [Entries.get?, held] using ih

theorem mem_place {filters : List (String × Filter)} {entry : String × Filter}
    (member : entry ∈ place name filter filters) : entry = (name, filter) ∨ entry ∈ filters := by
  induction filters with
  | nil => exact .inl (List.mem_singleton.mp member)
  | cons first rest ih =>
      obtain ⟨found, old⟩ := first
      unfold place at member
      split at member
      · exact List.mem_cons.mp member
      · split at member
        · rcases List.mem_cons.mp member with same | later
          · exact .inl same
          · exact .inr (List.mem_cons_of_mem _ later)
        · rcases List.mem_cons.mp member with same | later
          · exact .inr (same ▸ List.mem_cons_self)
          · exact (ih later).imp id (List.mem_cons_of_mem _)

theorem mem_registerAll {pairs : List (String × Filter)} {registry : Registry}
    {entry : String × Filter}
    (member : entry ∈ (pairs.foldl (fun registry pair => registry.register pair.1 pair.2)
      registry).filters) : entry ∈ pairs ∨ entry ∈ registry.filters := by
  induction pairs generalizing registry with
  | nil => exact .inr member
  | cons pair rest ih =>
      rcases ih member with later | before
      · exact .inl (List.mem_cons_of_mem _ later)
      · rcases mem_place before with same | older
        · exact .inl (same ▸ List.mem_cons_self)
        · exact .inr older

variable [Record.Accessors]

/-- Every filter that is found is one of the standard filters. -/
def BuiltIn (registry : Registry) : Prop :=
  ∀ name filter, registry.find? name = some filter →
    ∃ standardName, standard.find? standardName = some filter

theorem standard_builtIn : standard.BuiltIn := fun name _ found => ⟨name, found⟩

theorem find?_standard_const : standard.find? "const" = some Filter.const := by
  simp [standard, find?_register]

theorem find?_standard_path : standard.find? "path" = some Filter.path := by
  simp [standard, find?_register]

theorem find?_standard_sum : standard.find? "sum" = some Filter.sum := by
  simp [standard, find?_register]

theorem BuiltIn.cases {registry : Registry} (builtIn : registry.BuiltIn)
    (found : registry.find? name = some filter) {motive : Filter → Prop}
    (const : motive Filter.const) (path : motive Filter.path) (default : motive Filter.default)
    (sum : motive Filter.sum) (average : motive Filter.average) (count : motive Filter.count)
    (join : motive Filter.join) (split : motive Filter.split) (sort : motive Filter.sort)
    (unique : motive Filter.unique) (date : motive Filter.date) (replace : motive Filter.replace) :
    motive filter := by
  obtain ⟨standardName, held⟩ := builtIn name filter found
  rcases mem_registerAll (Entries.mem_of_get? held) with listed | absent
  · simp only [List.mem_cons, List.not_mem_nil, or_false, Prod.mk.injEq] at listed
    rcases listed with ⟨_, rfl⟩ | ⟨_, rfl⟩ | ⟨_, rfl⟩ | ⟨_, rfl⟩ | ⟨_, rfl⟩ | ⟨_, rfl⟩ | ⟨_, rfl⟩ |
      ⟨_, rfl⟩ | ⟨_, rfl⟩ | ⟨_, rfl⟩ | ⟨_, rfl⟩ | ⟨_, rfl⟩
    all_goals assumption
  · exact absurd absent List.not_mem_nil

theorem BuiltIn.plain_or_path {registry : Registry} (builtIn : registry.BuiltIn)
    (found : registry.find? name = some filter) : filter.Plain ∨ filter = Filter.path := by
  apply builtIn.cases found
  case path => exact .inr rfl
  all_goals exact .inl ⟨fun context arguments => ⟨_, rfl⟩, fun context lookup arguments => rfl,
    fun context strict arguments => rfl⟩

/-- All standard filters but `path` are functions of their context that look nothing up. -/
theorem standard_ofPure {name : String} {filter : Filter}
    (found : standard.find? name = some filter) (other : name ≠ "path") :
    ∃ body, filter = Filter.ofPure body := by
  rcases mem_registerAll (Entries.mem_of_get? found) with listed | absent
  · simp only [List.mem_cons, List.not_mem_nil, or_false, Prod.mk.injEq] at listed
    rcases listed with ⟨_, rfl⟩ | ⟨same, _⟩ | ⟨_, rfl⟩ | ⟨_, rfl⟩ | ⟨_, rfl⟩ | ⟨_, rfl⟩ | ⟨_, rfl⟩ |
      ⟨_, rfl⟩ | ⟨_, rfl⟩ | ⟨_, rfl⟩ | ⟨_, rfl⟩ | ⟨_, rfl⟩
    case inr.inl => exact absurd same other
    all_goals exact ⟨_, rfl⟩
  · exact absurd absent List.not_mem_nil

end Registry

end Reshape
