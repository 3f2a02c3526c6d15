import Mathlib.Data.List.Forall2
import Reshape.Filter.Basic

namespace Reshape

variable {ε α β : Type}

theorem bind_eq_ok_iff {attempt : Except ε α} {next : α → Except ε β} {value : β} :
    attempt >>= next = .ok value ↔ ∃ first, attempt = .ok first ∧ next first = .ok value := by
  cases attempt <;> simp [bind, Except.bind]

theorem map_eq_ok_iff {attempt : Except ε α} {change : α → β} {value : β} :
    attempt.map change = .ok value ↔ ∃ first, attempt = .ok first ∧ change first = value := by
  cases attempt <;> simp [Except.map]

namespace Attempt

/-- The attempt ends, in a result or an error. -/
def Answered (attempt : Attempt ε α) : Prop := ∃ outcome, attempt.run = some outcome

/-- Where the first attempt has an answer the second has the same. -/
def Below (first second : Attempt ε α) : Prop :=
  ∀ outcome, first.run = some outcome → second.run = some outcome

section Sequence

variable {attempt : Attempt ε α} {next : α → Attempt ε β}

theorem outcomes (attempt : Attempt ε α) :
    attempt = ExceptT.mk none ∨ (∃ failure, attempt = throw failure) ∨
      ∃ value, attempt = pure value := by
  cases attempt with
  | none => exact .inl rfl
  | some outcome =>
      cases outcome with
      | error failure => exact .inr (.inl ⟨failure, rfl⟩)
      | ok value => exact .inr (.inr ⟨value, rfl⟩)

theorem throw_ne_pure {failure : ε} {value : α} : (throw failure : Attempt ε α) ≠ pure value := by
  intro same
  cases same

theorem none_ne_pure {value : α} : (ExceptT.mk none : Attempt ε α) ≠ pure value := by
  intro same
  cases same

theorem pure_eq_pure_iff {first second : α} :
    (pure first : Attempt ε α) = pure second ↔ first = second := by
  constructor
  · intro same
    cases same
    rfl
  · exact congrArg pure

theorem bind_eq_pure_iff {value : β} :
    attempt >>= next = pure value ↔ ∃ first, attempt = pure first ∧ next first = pure value := by
  constructor
  · intro ended
    obtain rfl | ⟨failure, rfl⟩ | ⟨first, rfl⟩ := outcomes attempt
    · exact absurd ended none_ne_pure
    · exact absurd ended throw_ne_pure
    · exact ⟨first, rfl, ended⟩
  · rintro ⟨first, rfl, ended⟩
    exact ended

theorem bind_eq_throw_iff {failure : ε} :
    attempt >>= next = throw failure ↔
      attempt = throw failure ∨ ∃ first, attempt = pure first ∧ next first = throw failure := by
  obtain rfl | ⟨reason, rfl⟩ | ⟨first, rfl⟩ := outcomes attempt
  · refine iff_of_false (fun failed => ?_) ?_
    · cases failed
    · rintro (failed | ⟨first, ended, _⟩)
      · cases failed
      · exact none_ne_pure ended
  · constructor
    · intro failed
      cases failed
      exact .inl rfl
    · rintro (failed | ⟨first, ended, _⟩)
      · cases failed
        rfl
      · exact absurd ended throw_ne_pure
  · constructor
    · exact fun failed => .inr ⟨first, rfl, failed⟩
    · rintro (failed | ⟨given, ended, failed⟩)
      · exact absurd failed.symm throw_ne_pure
      · exact pure_eq_pure_iff.mp ended ▸ failed

theorem answered_pure (value : α) : Answered (pure value : Attempt ε α) := ⟨_, rfl⟩

theorem answered_throw (failure : ε) : Answered (throw failure : Attempt ε α) := ⟨_, rfl⟩

theorem not_answered_none : ¬ Answered (ExceptT.mk none : Attempt ε α) := by
  rintro ⟨outcome, ended⟩
  cases ended

theorem Answered.cases (answered : Answered attempt) :
    (∃ failure, attempt = throw failure) ∨ ∃ value, attempt = pure value := by
  obtain rfl | ended := outcomes attempt
  · exact absurd answered not_answered_none
  · exact ended

theorem answered_bind_iff :
    Answered (attempt >>= next) ↔
      Answered attempt ∧ ∀ first, attempt = pure first → Answered (next first) := by
  constructor
  · intro answered
    obtain rfl | ⟨failure, rfl⟩ | ⟨first, rfl⟩ := outcomes attempt
    · exact absurd answered not_answered_none
    · exact ⟨answered_throw failure, fun first same => absurd same throw_ne_pure⟩
    · exact ⟨answered_pure first, fun given same => pure_eq_pure_iff.mp same ▸ answered⟩
  · rintro ⟨answered, onward⟩
    obtain ⟨failure, rfl⟩ | ⟨first, rfl⟩ := answered.cases
    · exact answered_throw failure
    · exact onward first rfl

end Sequence

section Order

variable {first second : Attempt ε α}

theorem Below.refl (attempt : Attempt ε α) : Below attempt attempt := fun _ ended => ended

theorem Below.answered (below : Below first second) (answered : Answered first) :
    Answered second := by
  obtain ⟨outcome, ended⟩ := answered
  exact ⟨outcome, below outcome ended⟩

theorem Below.pure {value : α} (below : Below first second) (ended : first = Pure.pure value) :
    second = Pure.pure value := below _ ended

theorem Below.bind {onFirst onSecond : α → Attempt ε β} (below : Below first second)
    (onward : ∀ value, Below (onFirst value) (onSecond value)) :
    Below (first >>= onFirst) (second >>= onSecond) := by
  intro outcome ended
  have answered : Answered first := (answered_bind_iff.mp ⟨outcome, ended⟩).1
  obtain ⟨failure, rfl⟩ | ⟨value, rfl⟩ := answered.cases
  · have same : second = throw failure := below _ rfl
    rw [same]
    exact ended
  · rw [below.pure rfl]
    exact onward value outcome ended

theorem Below.foldlM {onFirst onSecond : β → α → Attempt ε β}
    (onward : ∀ current step, Below (onFirst current step) (onSecond current step))
    (start : β) (steps : List α) :
    Below (steps.foldlM onFirst start) (steps.foldlM onSecond start) := by
  induction steps generalizing start with
  | nil => exact .refl _
  | cons step rest ih =>
      rw [List.foldlM_cons, List.foldlM_cons]
      exact (onward start step).bind ih

end Order

section Success

variable {first second : Attempt ε α}

def SucceedsBelow (first second : Attempt ε α) : Prop :=
  ∀ value, first = pure value → second = pure value

theorem SucceedsBelow.bind {onFirst onSecond : α → Attempt ε β}
    (below : SucceedsBelow first second)
    (onward : ∀ value, SucceedsBelow (onFirst value) (onSecond value)) :
    SucceedsBelow (first >>= onFirst) (second >>= onSecond) := by
  intro value ended
  obtain ⟨reached, here, after⟩ := bind_eq_pure_iff.mp ended
  exact bind_eq_pure_iff.mpr ⟨reached, below reached here, onward reached value after⟩

theorem SucceedsBelow.foldlM {onFirst onSecond : β → α → Attempt ε β}
    (onward : ∀ current step, SucceedsBelow (onFirst current step) (onSecond current step))
    (start : β) (steps : List α) :
    SucceedsBelow (steps.foldlM onFirst start) (steps.foldlM onSecond start) := by
  induction steps generalizing start with
  | nil => exact fun value ended => ended
  | cons step rest ih =>
      rw [List.foldlM_cons, List.foldlM_cons]
      exact (onward start step).bind ih

end Success

/-- Attempts that are allowed more and more: an answer that is there once stays. -/
def Growing (attempts : Nat → Attempt ε α) : Prop :=
  ∀ first second, first ≤ second → Below (attempts first) (attempts second)

/-- Enough is allowed at some time for an answer. -/
def Ends (attempts : Nat → Attempt ε α) : Prop := ∃ depth, Answered (attempts depth)

namespace Growing

variable {attempts : Nat → Attempt ε α} {step : Nat → β → α → Attempt ε β}

theorem eq_pure_of_answered (growing : Growing attempts) {first second : Nat} {value : α}
    (answered : Answered (attempts first)) (ended : attempts second = pure value) :
    attempts first = pure value := by
  obtain ⟨outcome, here⟩ := answered
  have joined := growing first _ (Nat.le_max_left first second) outcome here
  rw [(growing second _ (Nat.le_max_right first second)).pure ended] at joined
  cases joined
  exact here

theorem ends_bind (growing : Growing attempts) {next : Nat → α → Attempt ε β}
    (growingAfter : ∀ value, Growing (next · value)) (ends : Ends attempts)
    (endsAfter : ∀ depth value, attempts depth = pure value → Ends (next · value)) :
    Ends (fun depth => attempts depth >>= next depth) := by
  obtain ⟨depth, answered⟩ := ends
  obtain ⟨failure, failed⟩ | ⟨value, ended⟩ := answered.cases
  · refine ⟨depth, ?_⟩
    dsimp only
    rw [failed]
    exact answered_throw failure
  · obtain ⟨later, after⟩ := endsAfter depth value ended
    refine ⟨max depth later, ?_⟩
    have again := (growing depth _ (Nat.le_max_left depth later)).pure ended
    dsimp only
    rw [again]
    exact (growingAfter value later _ (Nat.le_max_right depth later)).answered after

theorem foldlM (growing : ∀ current member, Growing (step · current member)) (start : β)
    (members : List α) : Growing (fun depth => members.foldlM (step depth) start) :=
  fun first second within =>
    Below.foldlM (fun current member => growing current member first second within) start members

theorem answered_step (growing : ∀ current member, Growing (step · current member))
    {before after : List α} {member : α} {start current : β} {depth other : Nat}
    (answered : Answered ((before ++ member :: after).foldlM (step depth) start))
    (reached : before.foldlM (step other) start = pure current) :
    Answered (step depth current member) := by
  rw [List.foldlM_append] at answered
  obtain ⟨answeredBefore, onward⟩ := answered_bind_iff.mp answered
  have here := (foldlM growing start before).eq_pure_of_answered answeredBefore reached
  have rest := onward current here
  rw [List.foldlM_cons] at rest
  exact (answered_bind_iff.mp rest).1

theorem ends_foldlM (growing : ∀ current member, Growing (step · current member)) {start : β}
    {members : List α}
    (endsAt : ∀ before member after depth current, members = before ++ member :: after →
      before.foldlM (step depth) start = pure current → Ends (step · current member)) :
    Ends (fun depth => members.foldlM (step depth) start) := by
  induction members generalizing start with
  | nil => exact ⟨0, answered_pure start⟩
  | cons member rest ih =>
      have endsHere : Ends (step · start member) := endsAt [] member rest 0 start rfl rfl
      apply (growing start member).ends_bind (fun value => foldlM growing value rest) endsHere
      intro first next reached
      apply ih
      intro before later after second current declared ended
      refine endsAt (member :: before) later after (max first second) current
        (congrArg (member :: ·) declared) ?_
      have here : step (max first second) start member = pure next :=
        (growing start member first _ (Nat.le_max_left first second)).pure reached
      rw [List.foldlM_cons, here, pure_bind]
      exact (foldlM growing next before second _ (Nat.le_max_right first second)).pure ended

end Growing

theorem foldlM_fails {step : β → α → Attempt ε β} {steps : List α} {holds : ε → Prop}
    (each : ∀ current member failure, member ∈ steps → step current member = throw failure →
      holds failure)
    {start : β} {failure : ε} (failed : steps.foldlM step start = throw failure) :
    holds failure := by
  induction steps generalizing start with
  | nil => exact absurd failed.symm throw_ne_pure
  | cons member rest ih =>
      rw [List.foldlM_cons, bind_eq_throw_iff] at failed
      rcases failed with here | ⟨next, _, later⟩
      · exact each start member failure (by simp) here
      · exact ih (fun current later failure inRest => each current later failure
          (List.mem_cons_of_mem member inRest)) later

theorem foldlM_succeeds {step : β → α → Attempt ε β} {steps : List α} {start result : β}
    (ended : steps.foldlM step start = pure result) :
    ∀ member ∈ steps, ∃ current next, step current member = pure next := by
  induction steps generalizing start with
  | nil => simp
  | cons first rest ih =>
      rw [List.foldlM_cons, bind_eq_pure_iff] at ended
      obtain ⟨next, here, others⟩ := ended
      exact List.forall_mem_cons.mpr ⟨⟨start, next, here⟩, ih others⟩

theorem answered_foldlM {step : β → α → Attempt ε β} {steps : List α}
    (each : ∀ current member, member ∈ steps → Answered (step current member)) (start : β) :
    Answered (steps.foldlM step start) := by
  induction steps generalizing start with
  | nil => exact answered_pure start
  | cons member rest ih =>
      rw [List.foldlM_cons, answered_bind_iff]
      refine ⟨each start member (by simp), fun next _ => ?_⟩
      exact ih (fun current later inRest => each current later
        (List.mem_cons_of_mem member inRest)) next

section Agreement

variable {δ γ ζ : Type} {failures : ε → δ → Prop} {related : α → β → Prop}

/-- Two attempts end alike: without an answer, in matching failures or in related results. -/
inductive Agree (failures : ε → δ → Prop) (related : α → β → Prop) :
    Attempt ε α → Attempt δ β → Prop where
  | unanswered : Agree failures related (ExceptT.mk none) (ExceptT.mk none)
  | failed {left : ε} {right : δ} (matched : failures left right) :
      Agree failures related (throw left) (throw right)
  | ended {left : α} {right : β} (same : related left right) :
      Agree failures related (pure left) (pure right)

theorem Agree.bind {first : Attempt ε α} {second : Attempt δ β} {next : γ → ζ → Prop}
    {onFirst : α → Attempt ε γ} {onSecond : β → Attempt δ ζ}
    (agree : Agree failures related first second)
    (onward : ∀ left right, related left right →
      Agree failures next (onFirst left) (onSecond right)) :
    Agree failures next (first >>= onFirst) (second >>= onSecond) := by
  cases agree with
  | unanswered => exact .unanswered
  | failed matched => exact .failed matched
  | ended same => exact onward _ _ same

theorem Agree.foldlM {step : α → γ → Attempt ε α} {other : β → ζ → Attempt δ β}
    {listed : γ → ζ → Prop} {steps : List γ} {others : List ζ}
    (each : List.Forall₂ listed steps others)
    (onward : ∀ left right member partner, related left right → listed member partner →
      Agree failures related (step left member) (other right partner))
    {left : α} {right : β} (same : related left right) :
    Agree failures related (steps.foldlM step left) (others.foldlM other right) := by
  induction each generalizing left right with
  | nil => exact .ended same
  | cons here _ ih =>
      rw [List.foldlM_cons, List.foldlM_cons]
      exact (onward _ _ _ _ same here).bind fun _ _ reached => ih reached

theorem Agree.of_pure {first : Attempt ε α} {second : Attempt δ β} {left : α} {right : β}
    (agree : Agree failures related first second) (ended : first = pure left)
    (other : second = pure right) : related left right := by
  cases agree with
  | unanswered => exact absurd ended none_ne_pure
  | failed matched => exact absurd ended throw_ne_pure
  | ended same =>
      cases pure_eq_pure_iff.mp ended
      cases pure_eq_pure_iff.mp other
      exact same

end Agreement

end Attempt

end Reshape
