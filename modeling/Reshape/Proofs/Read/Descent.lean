import Reshape.Proofs.Read.Simulation
import Reshape.Proofs.Read.Structure

namespace Reshape

variable [Record.Accessors] {related : Value → Value → Prop}

theorem Resolver.alike_plain
    (child : ∀ {left right}, related left right → ∀ key,
      Option.Rel related (left.get? key) (right.get? key))
    (resolver : Resolver) (start stop : Nat)
    (bounds : start ≤ stop ∧ stop ≤ resolver.tokens.size)
    (plain : ∀ token ∈ window resolver.tokens start stop, token ≠ .wildcard ∧ token ≠ .flatten)
    {left right : Value} (same : related left right) :
    Alike (Option.Rel related) (resolver.resolve start stop bounds left)
      (resolver.resolve start stop bounds right) := by
  induction reach : stop - start generalizing start left right with
  | zero =>
      have outside : ¬ start < stop := by omega
      rw [Resolver.resolve.eq_def resolver start stop bounds left, dif_neg outside,
        Resolver.resolve.eq_def resolver start stop bounds right, dif_neg outside]
      exact .some same
  | succ reach ih =>
      have within : start < stop := by omega
      have head : resolver.tokens[start]? = some resolver.tokens[start] := by simp
      rw [window_cons within head, List.forall_mem_cons] at plain
      obtain ⟨here, behind⟩ := plain
      rw [Resolver.resolve.eq_def resolver start stop bounds left,
        Resolver.resolve.eq_def resolver start stop bounds right]
      simp only [within, ↓reduceDIte]
      cases token : resolver.tokens[start] with
      | wildcard => exact absurd token here.1
      | flatten => exact absurd token here.2
      | cancel => exact ih (start + 1) _ behind same (by omega)
      | key name =>
          have held := child same name
          dsimp only
          revert held
          cases left.get? name <;> cases right.get? name <;> intro held
          · exact Simulation.alike_absent resolver _
          · exact absurd held (by simp)
          · exact absurd held (by simp)
          · exact ih (start + 1) _ behind (Option.rel_some_some.mp held) (by omega)

theorem Value.alike_resolve_plain
    (child : ∀ {left right}, related left right → ∀ key,
      Option.Rel related (left.get? key) (right.get? key))
    {tokens : List Token} (plain : ∀ token ∈ tokens, token ≠ .wildcard ∧ token ≠ .flatten)
    {left right : Value} (same : related left right) (delimiter : Delimiter) (strict : Bool) :
    Alike (Option.Rel related) (left.resolve delimiter strict tokens)
      (right.resolve delimiter strict tokens) :=
  Resolver.alike_plain child _ _ _ _ (by rwa [Resolver.window_all]) same

end Reshape
