import Reshape.Proofs.Read.Structure
/-!
Paths one behind the other. A path that closes its groups has all its steps before those of
the path behind it, so the whole of both finds in a value what the second finds in what the
first finds there.
-/

namespace Reshape

namespace Path

open Resolver

/-- Every group that the tokens open has its cancel among them. -/
def Closed (tokens : List Token) : Prop :=
  ∀ position, tokens[position]? = some .wildcard →
    (closing? tokens.toArray (position + 1) tokens.length 0).isSome

variable {first tokens : List Token}

theorem Nesting.groups_after (before : List Step) (nesting : Nesting) :
    (nesting.after before).groups = nesting.groups := rfl

theorem Closed.groups_window (closed : Closed tokens) {start : Nat} (within : start ≤ tokens.length) :
    (Nesting.readAll {} (window tokens.toArray start tokens.length)).groups = [] := by
  induction left : tokens.length - start using Nat.strongRecOn generalizing start with
  | ind left ih =>
      rcases Nat.lt_or_eq_of_le within with below | rfl
      · have head : tokens.toArray[start]? = some tokens[start] := by simp [below]
        have behind := ih (tokens.length - (start + 1)) (by omega) below rfl
        cases token : tokens[start] with
        | key name =>
            rw [window_cons below (token ▸ head)]
            change ((Nesting.after [.key name] {}).readAll _).groups = []
            rw [Nesting.readAll_after, Nesting.groups_after, behind]
        | flatten =>
            rw [window_cons below (token ▸ head)]
            change ((Nesting.after [.flatten] {}).readAll _).groups = []
            rw [Nesting.readAll_after, Nesting.groups_after, behind]
        | cancel =>
            rw [window_cons below (token ▸ head)]
            exact behind
        | wildcard =>
            obtain ⟨cancel, found⟩ := Option.isSome_iff_exists.mp
              (closed start (by rw [List.getElem?_eq_getElem below, token]))
            obtain ⟨inside, balanced⟩ :=
              @inside_window tokens.toArray (start + 1) tokens.length {} 0 (by simp) rfl
            rw [found, Option.getD_some] at inside balanced
            obtain ⟨lower, upper⟩ := closing?_bounds found
            rw [window_cons below (token ▸ head), window_append lower (Nat.le_of_lt upper),
              window_cons upper (closing?_cancel found), ← List.cons_append,
              readAll_group _ inside (balanced rfl), Nesting.groups_after]
            exact ih (tokens.length - (cancel + 1)) (by omega) upper rfl
      · rw [window_empty (Nat.le_refl _)]
        rfl

theorem parse_append (closed : Closed first) (second : List Token) :
    parse (first ++ second) = parse first ++ parse second := by
  have balanced : (Nesting.readAll {} first).groups = [] := by
    have whole := closed.groups_window (Nat.zero_le _)
    rwa [window_all] at whole
  have finished : Nesting.readAll {} first = Nesting.after (parse first) {} := by
    unfold parse
    revert balanced
    obtain ⟨steps, groups⟩ := Nesting.readAll {} first
    rintro rfl
    simp [Nesting.finish, Nesting.after]
  rw [parse, Nesting.readAll_append, finished, Nesting.readAll_after, Nesting.finish_after]
  rfl

theorem evaluate_append [Record.Accessors] (strict : Bool) (before after : List Step)
    (current : Value) :
    evaluate strict (before ++ after) current = (do
      match ← evaluate strict before current with
      | some next => evaluate strict after next
      | none => return none) := by
  induction before generalizing current with
  | nil => rfl
  | cons step rest ih =>
      rw [List.cons_append, evaluate, evaluate]
      cases step.evaluate strict current with
      | error kind => rfl
      | ok found =>
          cases found with
          | none => rfl
          | some next => exact ih next

end Path

namespace Resolver

variable {resolver : Resolver} {current : Value}

variable [Record.Accessors]

theorem get?_of_uncontained (scalar : current.isContainer = false) (key : String) :
    current.get? key = none := by
  cases current with
  | list | map | record => contradiction
  | null | bool | number | string => rfl

theorem members?_of_uncontained (scalar : current.isContainer = false) :
    current.members? = none := by
  cases current with
  | list | map | record => contradiction
  | null | bool | number | string => rfl

theorem resolve_uncontained {start stop : Nat}
    {bounds : start ≤ stop ∧ stop ≤ resolver.tokens.size}
    (scalar : current.isContainer = false)
    (reaching : ∃ token ∈ window resolver.tokens start stop, token ≠ .cancel) :
    ∃ failure, resolver.resolve start stop bounds current = resolver.absent failure := by
  fun_induction Resolver.resolve resolver start stop bounds current with
  | case1 start stop bounds current within name head child found ih =>
      rw [get?_of_uncontained scalar] at found
      contradiction
  | case2 start stop bounds current within name head missing => exact ⟨_, rfl⟩
  | case3 start stop bounds current within head ih =>
      rw [window_cons within (Array.getElem?_eq_some_iff.mpr ⟨_, head⟩)] at reaching
      exact ih scalar (by simpa using reaching)
  | case4 start stop bounds current within head missing => exact ⟨_, rfl⟩
  | case5 start stop bounds current within head members found ih =>
      rw [members?_of_uncontained scalar] at found
      contradiction
  | case6 start stop bounds current within head missing => exact ⟨_, rfl⟩
  | case7 start stop bounds current within head members found =>
      rw [members?_of_uncontained scalar] at found
      contradiction
  | case8 start stop bounds current within head members found =>
      rw [members?_of_uncontained scalar] at found
      contradiction
  | case9 start stop bounds current outside =>
      rw [window_empty (Nat.le_of_not_lt outside)] at reaching
      simp at reaching

end Resolver

namespace Value

variable [Record.Accessors] {delimiter : Delimiter} {strict : Bool} {root : Value}
  {first second : List Token}

theorem resolve_uncontained (scalar : root.isContainer = false)
    (reaching : ∃ token ∈ second, token ≠ .cancel) :
    ∃ failure, root.resolve delimiter strict second =
      if strict then .error failure else .ok none :=
  Resolver.resolve_uncontained scalar (by rwa [Resolver.window_all])

/-- The error in which a path ends behind another one may tell a longer way, but is of the
same kind. -/
theorem resolve_append (closed : Path.Closed first) :
    (root.resolve delimiter strict (first ++ second)).mapError PathError.kind = (do
      match ← (root.resolve delimiter strict first).mapError PathError.kind with
      | some next => (next.resolve delimiter strict second).mapError PathError.kind
      | none => return none) := by
  simp only [resolve_mapError_kind]
  rw [Path.parse_append closed, Path.evaluate_append]

end Value

end Reshape
