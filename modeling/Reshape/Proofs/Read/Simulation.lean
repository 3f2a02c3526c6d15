import Mathlib.Data.List.Forall2
import Reshape.Read
/-!
Reading two values side by side. A path sees of a value only its members and what it holds
under keys, so where a relation carries over from values to these, every path finds related
results in related values or fails in both with the very same error.
-/

namespace Reshape

section Outcomes

variable {ε α β γ δ : Type} {related : α → β → Prop} {next : γ → δ → Prop}

/-- Both fail with the same error, or both end in related results. -/
def Alike (related : α → β → Prop) : Except ε α → Except ε β → Prop
  | .ok left, .ok right => related left right
  | .error left, .error right => left = right
  | _, _ => False

theorem Alike.bind {first : Except ε α} {second : Except ε β} {onFirst : α → Except ε γ}
    {onSecond : β → Except ε δ} (alike : Alike related first second)
    (onward : ∀ left right, related left right → Alike next (onFirst left) (onSecond right)) :
    Alike next (first >>= onFirst) (second >>= onSecond) := by
  cases first with
  | error failure =>
      cases second with
      | error other => exact alike
      | ok right => exact alike.elim
  | ok left =>
      cases second with
      | error other => exact alike.elim
      | ok right => exact onward left right alike

theorem Alike.map {first : Except ε α} {second : Except ε β} {onFirst : α → γ} {onSecond : β → δ}
    (alike : Alike related first second)
    (onward : ∀ left right, related left right → next (onFirst left) (onSecond right)) :
    Alike next (first.map onFirst) (second.map onSecond) :=
  alike.bind onward

theorem Alike.bind_same {outcome : Except ε α} {onFirst : α → Except ε γ}
    {onSecond : α → Except ε δ} (onward : ∀ value, Alike next (onFirst value) (onSecond value)) :
    Alike next (outcome >>= onFirst) (outcome >>= onSecond) := by
  cases outcome with
  | error failure => exact Eq.refl failure
  | ok value => exact onward value

theorem Alike.map_same {outcome : Except ε α} {onFirst : α → γ} {onSecond : α → δ}
    (onward : ∀ value, next (onFirst value) (onSecond value)) :
    Alike next (outcome.map onFirst) (outcome.map onSecond) :=
  Alike.bind_same onward

theorem Alike.eq_map {first : Except ε α} {second : Except ε β} {change : α → β}
    (alike : Alike related first second) (mapped : ∀ left right, related left right →
      right = change left) : second = first.map change := by
  cases first with
  | error failure =>
      cases second with
      | error other => exact congrArg Except.error (Eq.symm alike)
      | ok right => exact alike.elim
  | ok left =>
      cases second with
      | error other => exact alike.elim
      | ok right => exact congrArg Except.ok (mapped left right alike)

end Outcomes

/-- A relation between values that reading one key or taking the members keeps. -/
structure Simulation [Record.Accessors] (related : Value → Value → Prop) : Prop where
  child : ∀ {left right}, related left right → ∀ key,
    Option.Rel related (left.get? key) (right.get? key)
  members : ∀ {left right}, related left right →
    Option.Rel (List.Forall₂ related) left.members? right.members?
  typeName : ∀ {left right}, related left right → left.members? = none →
    left.typeName = right.typeName
  list : ∀ {lefts rights}, List.Forall₂ related lefts rights →
    related (.list lefts) (.list rights)

namespace Simulation

open Resolver

variable {related : Value → Value → Prop} {left right : Value} {lefts rights : List Value}

theorem alike_absent (resolver : Resolver) (failure : PathError) :
    Alike (Option.Rel related) (resolver.absent failure) (resolver.absent failure) := by
  unfold Resolver.absent
  split
  · rfl
  · exact .none

theorem collect (each : List.Forall₂ related lefts rights)
    {onLeft onRight : Value → Except PathError (Option Value)}
    (alike : ∀ left right, related left right →
      Alike (Option.Rel related) (onLeft left) (onRight right)) :
    Alike (List.Forall₂ related) (Resolver.collect lefts onLeft)
      (Resolver.collect rights onRight) := by
  induction each with
  | nil => exact .nil
  | cons first _ ih =>
      refine (alike _ _ first).bind fun found other same => ih.bind fun others rest later => ?_
      cases same with
      | none => exact later
      | some here => exact .cons here later

theorem isSome_eq {α β : Type} {relation : α → β → Prop} {first : Option α} {second : Option β}
    (same : Option.Rel relation first second) : first.isSome = second.isSome := by
  cases same <;> rfl

theorem isNull_iff_typeName (value : Value) : value.isNull ↔ value.typeName = "null" := by
  cases value <;> simp [Value.isNull, Value.typeName]

variable [Record.Accessors]

theorem child_of_some (simulation : Simulation related) (same : related left right) {key : String}
    {child : Value} (found : left.get? key = some child) :
    ∃ other, right.get? key = some other ∧ related child other := by
  have held := simulation.child same key
  rw [found] at held
  cases other : right.get? key with
  | none => simp [other] at held
  | some value => exact ⟨value, rfl, by simpa [other] using held⟩

theorem child_of_none (simulation : Simulation related) (same : related left right) {key : String}
    (missing : left.get? key = none) : right.get? key = none := by
  have held := simulation.child same key
  rw [missing] at held
  cases other : right.get? key with
  | none => rfl
  | some value => simp [other] at held

theorem members_of_some (simulation : Simulation related) (same : related left right)
    (found : left.members? = some lefts) :
    ∃ others, right.members? = some others ∧ List.Forall₂ related lefts others := by
  have members := simulation.members same
  rw [found] at members
  cases other : right.members? with
  | none => simp [other] at members
  | some values => exact ⟨values, rfl, by simpa [other] using members⟩

theorem members_of_none (simulation : Simulation related) (same : related left right)
    (missing : left.members? = none) : right.members? = none := by
  have members := simulation.members same
  rw [missing] at members
  cases other : right.members? with
  | none => rfl
  | some values => simp [other] at members

theorem merge (simulation : Simulation related) (each : List.Forall₂ related lefts rights)
    (resolver : Resolver) (position : Nat) :
    Alike (List.Forall₂ related) (resolver.merge position lefts)
      (resolver.merge position rights) := by
  induction each with
  | nil => exact .nil
  | @cons left right lefts rights first _ ih =>
      rw [Resolver.merge, Resolver.merge]
      cases inner : left.members? with
      | none =>
          rw [simulation.members_of_none first inner, simulation.typeName first inner]
          dsimp only
          split
          · rfl
          · exact ih
      | some parts =>
          obtain ⟨others, here, same⟩ := simulation.members_of_some first inner
          rw [here]
          exact ih.map fun _ _ later => List.rel_append same later

theorem resolve (simulation : Simulation related) (resolver : Resolver) (start stop : Nat)
    (bounds : start ≤ stop ∧ stop ≤ resolver.tokens.size) (same : related left right) :
    Alike (Option.Rel related) (resolver.resolve start stop bounds left)
      (resolver.resolve start stop bounds right) := by
  fun_induction Resolver.resolve resolver start stop bounds left generalizing right with
  | case1 start stop bounds left within name head child found ih =>
      obtain ⟨other, here, held⟩ := simulation.child_of_some same found
      rw [Resolver.resolve.eq_def resolver start stop bounds right]
      simp only [within, head, here, ↓reduceDIte]
      exact ih held
  | case2 start stop bounds left within name head missing =>
      rw [Resolver.resolve.eq_def resolver start stop bounds right]
      simp only [within, head, simulation.child_of_none same missing, ↓reduceDIte]
      exact alike_absent resolver _
  | case3 start stop bounds left within head ih =>
      rw [Resolver.resolve.eq_def resolver start stop bounds right]
      simp only [within, head, ↓reduceDIte]
      exact ih same
  | case4 start stop bounds left within head missing =>
      rw [Resolver.resolve.eq_def resolver start stop bounds right]
      simp only [within, head, simulation.members_of_none same missing,
        simulation.typeName same missing, ↓reduceDIte]
      exact alike_absent resolver _
  | case5 start stop bounds left within head members found ih =>
      obtain ⟨others, here, each⟩ := simulation.members_of_some same found
      rw [Resolver.resolve.eq_def resolver start stop bounds right]
      simp only [within, head, here, ↓reduceDIte]
      exact (simulation.merge each resolver (start + 1)).bind fun _ _ merged =>
        ih _ (simulation.list merged)
  | case6 start stop bounds left within head missing =>
      rw [Resolver.resolve.eq_def resolver start stop bounds right]
      simp only [within, head, simulation.members_of_none same missing,
        simulation.typeName same missing, ↓reduceDIte]
      exact alike_absent resolver _
  | case7 start stop bounds left within head members found cancel closed position inside behind =>
      obtain ⟨others, here, each⟩ := simulation.members_of_some same found
      rw [Resolver.resolve.eq_def resolver start stop bounds right]
      simp only [within, head, here, ↓reduceDIte]
      split
      · rename_i other again
        cases again.symm.trans closed
        exact (collect each fun _ _ => inside _).bind fun _ _ found =>
          behind _ (simulation.list found)
      · rename_i unclosed
        cases unclosed.symm.trans closed
  | case8 start stop bounds left within head members found unclosed inside =>
      obtain ⟨others, here, each⟩ := simulation.members_of_some same found
      rw [Resolver.resolve.eq_def resolver start stop bounds right]
      simp only [within, head, here, ↓reduceDIte]
      split
      · rename_i cancel closed
        cases closed.symm.trans unclosed
      · exact (collect each fun _ _ => inside _).bind fun _ _ found =>
          .some (simulation.list found)
  | case9 start stop bounds left outside =>
      rw [Resolver.resolve.eq_def resolver start stop bounds right, dif_neg outside]
      exact .some same

theorem isContainer_eq (value : Value) : value.isContainer = value.members?.isSome := by
  cases value <;> rfl

theorem isNull_eq_false_of_members {value : Value} {members : List Value}
    (found : value.members? = some members) : value.isNull = false := by
  cases value with
  | null => contradiction
  | bool | number | string | list | map | record => rfl

theorem isNull_eq (simulation : Simulation related) (same : related left right) :
    left.isNull = right.isNull := by
  cases inner : left.members? with
  | none =>
      rw [Bool.eq_iff_iff, isNull_iff_typeName, isNull_iff_typeName, simulation.typeName same inner]
  | some parts =>
      obtain ⟨others, here, _⟩ := simulation.members_of_some same inner
      rw [isNull_eq_false_of_members inner, isNull_eq_false_of_members here]

theorem isContainer_eq_right (simulation : Simulation related) (same : related left right) :
    left.isContainer = right.isContainer := by
  rw [isContainer_eq, isContainer_eq, isSome_eq (simulation.members same)]

theorem checkRoot_eq (simulation : Simulation related) (same : related left right) :
    left.checkRoot = right.checkRoot := by
  have null := simulation.isNull_eq same
  have container := simulation.isContainer_eq_right same
  unfold Value.checkRoot Value.isScalar
  rw [null, container]
  split
  · rename_i scalar
    have inner : left.members? = none := by
      simpa [← container, isContainer_eq] using (Bool.and_eq_true_iff.mp scalar).2
    rw [simulation.typeName same inner]
  · rfl

variable {delimiter : Delimiter}

theorem alike_read {strict : Bool} {path : PathForm} (nothing : related .null .null)
    (resolved : ∀ tokens, path.parse delimiter = .ok tokens →
      Alike (Option.Rel related) (left.resolve delimiter strict tokens)
        (right.resolve delimiter strict tokens)) :
    Alike related (left.read delimiter strict path) (right.read delimiter strict path) := by
  unfold Value.read
  cases parsed : path.parse delimiter with
  | error failure => exact Eq.refl failure
  | ok tokens =>
      change Alike related (left.resolve delimiter strict tokens >>= _)
        (right.resolve delimiter strict tokens >>= _)
      refine (resolved tokens parsed).bind fun found other held => ?_
      cases held with
      | none => exact nothing
      | some here => exact here

theorem read (simulation : Simulation related) (nothing : related .null .null)
    (same : related left right) (strict : Bool) (path : PathForm) :
    Alike related (left.read delimiter strict path) (right.read delimiter strict path) :=
  alike_read nothing fun _ _ => simulation.resolve _ _ _ _ same

theorem lookup? (simulation : Simulation related) (same : related left right) (path : PathForm) :
    Option.Rel related (left.lookup? delimiter path) (right.lookup? delimiter path) := by
  unfold Value.lookup?
  cases path.parse delimiter with
  | error failure => exact .none
  | ok tokens =>
      have alike : Alike (Option.Rel related) (left.resolve delimiter false tokens)
        (right.resolve delimiter false tokens) := simulation.resolve _ _ _ _ same
      dsimp only
      revert alike
      cases left.resolve delimiter false tokens <;> cases right.resolve delimiter false tokens
      · exact fun _ => .none
      · exact False.elim
      · exact False.elim
      · exact id

theorem pathExists_eq (simulation : Simulation related) (same : related left right)
    (path : PathForm) : left.pathExists delimiter path = right.pathExists delimiter path :=
  isSome_eq (simulation.lookup? same path)

theorem pathIsSet_eq (simulation : Simulation related) (same : related left right)
    (path : PathForm) : left.pathIsSet delimiter path = right.pathIsSet delimiter path := by
  have found : Option.Rel related (left.lookup? delimiter path) (right.lookup? delimiter path) :=
    simulation.lookup? same path
  unfold Value.pathIsSet
  revert found
  cases left.lookup? delimiter path <;> cases right.lookup? delimiter path
  · exact fun _ => rfl
  · exact fun found => absurd found (by simp)
  · exact fun found => absurd found (by simp)
  · intro found
    cases found with
    | some held => rw [Option.any_some, Option.any_some, simulation.isNull_eq held]

end Simulation

end Reshape
