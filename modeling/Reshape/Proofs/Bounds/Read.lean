import Reshape.Proofs.Bounds.Guarded
import Reshape.Proofs.Read.Structure
/-!
Reading by path makes no fault. `resolveGuarded` goes by positions alone: it is handed a
window of the tokens without a proof that there is one, looks up each token, cuts out the
tokens in which the end of a group is searched and those that an error or the log names, and
counts the open groups down. For all tokens it comes to the same as `resolve`.
-/

namespace Reshape

def travelledGuarded (delimiter : Delimiter) (tokens : List Token) (position : Nat) :
    Guarded String := do
  return delimiter.join (← Guarded.slice tokens 0 position)

theorem travelledGuarded_eq {delimiter : Delimiter} {tokens : List Token} {position : Nat}
    (inside : position ≤ tokens.length) :
    travelledGuarded delimiter tokens position = .ok (delimiter.join (tokens.take position)) := by
  rw [travelledGuarded, Guarded.slice_eq (Nat.zero_le _) inside]
  rfl

/-- A reading, which ends for a reason of its own or at a fault. -/
abbrev Resolving := ExceptT PathError Guarded

namespace Resolving

variable {α β : Type}

/-- What a reading comes to when it makes no fault. -/
def faultless (outcome : Except PathError α) : Resolving α := .mk (.ok outcome)

theorem faultless_bind (outcome : Except PathError α) (next : α → Except PathError β) :
    faultless (outcome >>= next) = faultless outcome >>= fun value => faultless (next value) := by
  cases outcome <;> rfl

theorem liftM_ok (value : α) : (liftM (Except.ok value : Guarded α) : Resolving α) = pure value :=
  rfl

end Resolving

namespace Resolver

/-- How many of the tokens stand before the cancel that closes a group, in which as many
groups are open as `depth` says. -/
def offsetGuarded (depth : Nat) : List Token → Guarded (Option Nat)
  | [] => .ok none
  | token :: rest =>
      if token.opensGroup then do return (← offsetGuarded (depth + 1) rest).map (· + 1)
      else if token = .cancel then
        if depth = 0 then .ok (some 0)
        else do return (← offsetGuarded (← Guarded.countDown depth) rest).map (· + 1)
      else do return (← offsetGuarded depth rest).map (· + 1)

variable (resolver : Resolver)

def travelledAt : Nat → Guarded String :=
  travelledGuarded resolver.delimiter resolver.tokens.toList

def absentGuarded (position : Nat) (failure : String → PathError) : Resolving (Option Value) := do
  if resolver.strict then throw (failure (← resolver.travelledAt position)) else return none

def collectGuarded (members : List Value) (resolve : Value → Resolving (Option Value)) :
    Resolving (List Value) :=
  match members with
  | [] => return []
  | member :: rest => do
      let found ← resolve member
      let others ← collectGuarded rest resolve
      return found.toList ++ others

def mergeGuarded [Record.Accessors] (position : Nat) : List Value → Resolving (List Value)
  | [] => return []
  | member :: rest =>
      match member.members? with
      | some inner => do return inner ++ (← mergeGuarded position rest)
      | none => do
          if resolver.strict then
            throw (.notArrayAccessible (← resolver.travelledAt position) member.typeName)
          else mergeGuarded position rest

def resolveGuarded [Record.Accessors] (start stop : Nat) (current : Value) :
    Resolving (Option Value) := do
  Guarded.window start stop resolver.tokens.size
  if start = stop then return some current
  let ⟨token, found⟩ ← Guarded.element resolver.tokens.toList start
  have _ : start < resolver.tokens.size := (List.getElem?_eq_some_iff.mp found).1
  match token with
  | .key name =>
      match current.get? name with
      | some child => resolveGuarded (start + 1) stop child
      | none => resolver.absentGuarded start (.notExist name)
  | .cancel => resolveGuarded (start + 1) stop current
  | .flatten =>
      match current.members? with
      | none => resolver.absentGuarded start (.notArrayAccessible · current.typeName)
      | some members => do
          let merged ← resolver.mergeGuarded (start + 1) members
          let _logged ← resolver.travelledAt start
          resolveGuarded (start + 1) stop (.list merged)
  | .wildcard => do
      let behind ← Guarded.slice resolver.tokens.toList (start + 1) stop
      let offset ← offsetGuarded 0 behind
      match current.members? with
      | none => resolver.absentGuarded start (.notArrayAccessible · current.typeName)
      | some members => do
          let _logged ← resolver.travelledAt start
          let close := (offset.map (start + 1 + ·)).getD stop
          let collected ← collectGuarded members (resolveGuarded (start + 1) close)
          match offset with
          | some offset => resolveGuarded (start + 1 + offset + 1) stop (.list collected)
          | none => return some (.list collected)
termination_by resolver.tokens.size - start

open Resolving

variable {resolver} {tokens : Array Token} {start stop position : Nat}

theorem map_shift (offset : Option Nat) (start : Nat) :
    (offset.map (· + 1)).map (start + ·) = offset.map (start + 1 + ·) := by
  rw [Option.map_map]
  congr 1
  funext count
  exact (Nat.add_right_comm start 1 count).symm

/-- The search counts down only while a group is open, and finds what `closing?` finds. -/
theorem offsetGuarded_eq (start depth : Nat) (bound : stop ≤ tokens.size) :
    ∃ offset, offsetGuarded depth (window tokens start stop) = .ok offset ∧
      offset.map (start + ·) = closing? tokens start stop depth := by
  fun_induction closing? tokens start stop depth with
  | case1 start depth below wildcard ih =>
      obtain ⟨offset, searched, closes⟩ := ih
      refine ⟨offset.map (· + 1), ?_, (map_shift offset start).trans closes⟩
      rw [window_cons below wildcard, offsetGuarded, if_pos (by rfl), searched]
      rfl
  | case2 start below closes =>
      exact ⟨some 0, by rw [window_cons below closes]; rfl, rfl⟩
  | case3 start depth below cancel inner ih =>
      obtain ⟨offset, searched, closes⟩ := ih
      refine ⟨offset.map (· + 1), ?_, (map_shift offset start).trans closes⟩
      rw [window_cons below cancel, offsetGuarded, if_neg (by decide), if_pos rfl, if_neg inner,
        Guarded.countDown_eq inner]
      exact congrArg (Except.map (Option.map (· + 1))) searched
  | case4 start depth below notWildcard notCancel ih =>
      obtain ⟨offset, searched, closes⟩ := ih
      have head := Array.getElem?_eq_getElem (Nat.lt_of_lt_of_le below bound)
      refine ⟨offset.map (· + 1), ?_, (map_shift offset start).trans closes⟩
      rw [window_cons below head, offsetGuarded]
      generalize tokens[start] = token at head
      cases token with
      | wildcard => exact absurd head notWildcard
      | cancel => exact absurd head notCancel
      | key name => exact congrArg (Except.map (Option.map (· + 1))) searched
      | flatten => exact congrArg (Except.map (Option.map (· + 1))) searched
  | case5 start depth outside =>
      exact ⟨none, by rw [window_empty (Nat.le_of_not_lt outside)]; rfl, rfl⟩

theorem first_eq {token : Token} {inside : position < tokens.size}
    (head : tokens[position] = token) : tokens.toList[position]? = some token := by
  rw [Array.getElem?_toList, Array.getElem?_eq_getElem inside, head]

theorem travelledAt_eq (inside : position ≤ resolver.tokens.size) :
    resolver.travelledAt position = .ok (resolver.travelled position) :=
  travelledGuarded_eq inside

theorem absentGuarded_eq (inside : position ≤ resolver.tokens.size)
    (failure : String → PathError) :
    resolver.absentGuarded position failure =
      faultless (resolver.absent (failure (resolver.travelled position))) := by
  unfold absentGuarded absent
  rw [travelledAt_eq inside]
  split <;> rfl

theorem collectGuarded_eq {guarded : Value → Resolving (Option Value)}
    {resolve : Value → Except PathError (Option Value)}
    (agree : ∀ member, guarded member = faultless (resolve member)) (members : List Value) :
    collectGuarded members guarded = faultless (collect members resolve) := by
  induction members with
  | nil => rfl
  | cons member rest ih =>
      rw [collectGuarded, collect, agree, ih, faultless_bind]
      simp only [faultless_bind]
      rfl

theorem mergeGuarded_eq [Record.Accessors] (inside : position ≤ resolver.tokens.size)
    (members : List Value) :
    resolver.mergeGuarded position members = faultless (resolver.merge position members) := by
  induction members with
  | nil => rfl
  | cons member rest ih =>
      rw [mergeGuarded, merge, ih, travelledAt_eq inside]
      cases member.members? with
      | some inner => cases resolver.merge position rest <;> rfl
      | none =>
          dsimp only
          split <;> rfl

theorem enter {β : Type} {token : Token} (within : start < stop) (bound : stop ≤ tokens.size)
    (first : tokens.toList[start]? = some token) (reached : Resolving β)
    (next : { token // tokens.toList[start]? = some token } → Resolving β) :
    (do
      Guarded.window start stop tokens.size
      if start = stop then reached else next (← Guarded.element tokens.toList start)) =
      next ⟨token, first⟩ := by
  rw [Guarded.window_eq (Nat.le_of_lt within) bound, Guarded.element_eq first, liftM_ok, pure_bind,
    if_neg (Nat.ne_of_lt within), liftM_ok, pure_bind]

theorem slice_behind (within : start < stop) (bound : stop ≤ tokens.size) :
    Guarded.slice tokens.toList (start + 1) stop = .ok (window tokens (start + 1) stop) :=
  Guarded.slice_eq within bound

theorem resolveGuarded_eq [Record.Accessors] (bounds : start ≤ stop ∧ stop ≤ resolver.tokens.size)
    (current : Value) :
    resolver.resolveGuarded start stop current =
      faultless (resolver.resolve start stop bounds current) := by
  fun_induction Resolver.resolve resolver start stop bounds current with
  | case1 start stop bounds current within name head child found ih =>
      rw [resolveGuarded, enter within bounds.2 (first_eq head)]
      simp only [found, ih]
  | case2 start stop bounds current within name head missing =>
      rw [resolveGuarded, enter within bounds.2 (first_eq head)]
      simp only [missing]
      exact absentGuarded_eq (Nat.le_trans bounds.1 bounds.2) _
  | case3 start stop bounds current within head ih =>
      rw [resolveGuarded, enter within bounds.2 (first_eq head)]
      exact ih
  | case4 start stop bounds current within head missing =>
      rw [resolveGuarded, enter within bounds.2 (first_eq head)]
      simp only [missing]
      exact absentGuarded_eq (Nat.le_trans bounds.1 bounds.2) _
  | case5 start stop bounds current within head members found ih =>
      have inside : start + 1 ≤ resolver.tokens.size := Nat.lt_of_lt_of_le within bounds.2
      rw [resolveGuarded, enter within bounds.2 (first_eq head)]
      simp only [found, mergeGuarded_eq inside, travelledAt_eq (Nat.le_trans bounds.1 bounds.2),
        liftM_ok, pure_bind, ih, faultless_bind]
  | case6 start stop bounds current within head missing =>
      obtain ⟨offset, searched, -⟩ := offsetGuarded_eq (start + 1) 0 bounds.2
      rw [resolveGuarded, enter within bounds.2 (first_eq head)]
      simp only [slice_behind within bounds.2, searched, liftM_ok, pure_bind, missing]
      exact absentGuarded_eq (Nat.le_trans bounds.1 bounds.2) _
  | case7 start stop bounds current within head members found cancel closed position inside behind =>
      obtain ⟨offset, searched, closes⟩ := offsetGuarded_eq (start + 1) 0 bounds.2
      rw [closed] at closes
      obtain ⟨count, rfl, rfl⟩ := Option.map_eq_some_iff.mp closes
      rw [resolveGuarded, enter within bounds.2 (first_eq head)]
      simp only [slice_behind within bounds.2, searched, liftM_ok, pure_bind, found,
        travelledAt_eq (Nat.le_trans bounds.1 bounds.2), closes, Option.getD_some,
        collectGuarded_eq inside, behind, faultless_bind]
  | case8 start stop bounds current within head members found unclosed inside =>
      obtain ⟨offset, searched, closes⟩ := offsetGuarded_eq (start + 1) 0 bounds.2
      rw [unclosed] at closes
      obtain rfl := Option.map_eq_none_iff.mp closes
      rw [resolveGuarded, enter within bounds.2 (first_eq head)]
      simp only [slice_behind within bounds.2, searched, liftM_ok, pure_bind, found,
        travelledAt_eq (Nat.le_trans bounds.1 bounds.2), Option.map_none, Option.getD_none,
        collectGuarded_eq inside, faultless_bind]
      rfl
  | case9 start stop bounds current outside =>
      have reached : start = stop := Nat.le_antisymm bounds.1 (Nat.le_of_not_lt outside)
      rw [resolveGuarded, Guarded.window_eq bounds.1 bounds.2, liftM_ok, pure_bind,
        if_pos reached]
      rfl

end Resolver

namespace Value

variable [Record.Accessors]

def resolveGuarded (delimiter : Delimiter) (strict : Bool) (tokens : List Token) (root : Value) :
    Resolving (Option Value) :=
  Resolver.resolveGuarded { tokens := tokens.toArray, delimiter, strict } 0 tokens.length root

variable (delimiter : Delimiter) (root : Value)

def readGuarded (strict : Bool) (path : PathForm) : Resolving Value := do
  let tokens ← Resolving.faultless (path.parse delimiter)
  return (← root.resolveGuarded delimiter strict tokens).getD .null

def existsGuarded (path : PathForm) : Guarded Bool :=
  match path.parse delimiter with
  | .ok tokens => do
      match ← (root.resolveGuarded delimiter false tokens).run with
      | .ok found => return found.isSome
      | .error _ => return false
  | .error _ => .ok false

theorem resolveGuarded_eq (strict : Bool) (tokens : List Token) :
    root.resolveGuarded delimiter strict tokens =
      Resolving.faultless (root.resolve delimiter strict tokens) :=
  Resolver.resolveGuarded_eq (by simp) root

theorem readGuarded_eq (strict : Bool) (path : PathForm) :
    root.readGuarded delimiter strict path =
      Resolving.faultless (root.read delimiter strict path) := by
  unfold readGuarded read
  cases path.parse delimiter with
  | error failure => rfl
  | ok tokens =>
      simp only [resolveGuarded_eq, Resolving.faultless_bind]
      rfl

theorem existsGuarded_eq (path : PathForm) :
    root.existsGuarded delimiter path = .ok (root.pathExists delimiter path) := by
  unfold existsGuarded pathExists lookup?
  cases path.parse delimiter with
  | error failure => rfl
  | ok tokens =>
      simp only [resolveGuarded_eq]
      cases root.resolve delimiter false tokens <;> rfl

end Value

end Reshape
