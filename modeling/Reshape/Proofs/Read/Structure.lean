import Reshape.Proofs.Read.Evaluation
/-!
Resolving a path by positions comes to taking the steps of its structure. The search for
the end of a group, which starts anew at every `*`, is tied to the stack of open groups by
`inside_window`; the main statement is `resolve_structural`.
-/

namespace Reshape

namespace Resolver

open Reshape.Path

def window (tokens : Array Token) (start stop : Nat) : List Token :=
  (tokens.toList.drop start).take (stop - start)

variable {tokens : Array Token} {start middle stop : Nat}

theorem window_empty (reached : stop ≤ start) : window tokens start stop = [] := by
  simp [window, Nat.sub_eq_zero_of_le reached]

theorem window_all (tokens : List Token) : window tokens.toArray 0 tokens.length = tokens := by
  rw [window, List.drop_zero, Nat.sub_zero, List.take_length]

theorem window_cons {token : Token} (within : start < stop)
    (head : tokens[start]? = some token) :
    window tokens start stop = token :: window tokens (start + 1) stop := by
  obtain ⟨inside, same⟩ := Array.getElem?_eq_some_iff.mp head
  have length : stop - start = stop - (start + 1) + 1 := by omega
  rw [window, List.drop_eq_getElem_cons (by simpa using inside), length, List.take_succ_cons,
    Array.getElem_toList, same]
  rfl

theorem window_eq_cons {token : Token} {rest : List Token}
    (spelled : window tokens start stop = token :: rest) :
    start < stop ∧ tokens[start]? = some token ∧ window tokens (start + 1) stop = rest := by
  have within : start < stop := by
    refine Nat.lt_of_not_le fun outside => ?_
    rw [window_empty outside] at spelled
    contradiction
  cases head : tokens[start]? with
  | none =>
      have outside : tokens.toList.length ≤ start := by simpa using head
      rw [window, List.drop_eq_nil_of_le outside, List.take_nil] at spelled
      contradiction
  | some first =>
      rw [window_cons within head] at spelled
      obtain ⟨same, behind⟩ := List.cons.inj spelled
      exact ⟨within, congrArg some same, behind⟩

theorem window_append (lower : start ≤ middle) (upper : middle ≤ stop) :
    window tokens start stop = window tokens start middle ++ window tokens middle stop := by
  have length : stop - start = (middle - start) + (stop - middle) := by omega
  have position : start + (middle - start) = middle := by omega
  rw [window, length, List.take_add, List.drop_drop, position]
  rfl

theorem closing?_cancel {depth cancel : Nat}
    (found : closing? tokens start stop depth = some cancel) : tokens[cancel]? = some .cancel := by
  fun_induction closing? tokens start stop depth with
  | case1 start depth below wildcard ih => exact ih found
  | case2 start below closes =>
      cases found
      exact closes
  | case3 start depth below closes inner ih => exact ih found
  | case4 start depth below wildcard cancel ih => exact ih found
  | case5 => contradiction

theorem closing?_getD_bounds (tokens : Array Token) (depth : Nat) (within : start ≤ stop) :
    start ≤ (closing? tokens start stop depth).getD stop ∧
      (closing? tokens start stop depth).getD stop ≤ stop := by
  cases found : closing? tokens start stop depth with
  | none => exact ⟨within, Nat.le_refl stop⟩
  | some cancel =>
      have bounds := closing?_bounds found
      exact ⟨bounds.1, Nat.le_of_lt bounds.2⟩

/-- Up to where the search for the closing cancel ends, all is read inside of the group;
and where there is such a cancel, the groups opened meanwhile are closed. -/
theorem inside_window {nesting : Nesting} {depth : Nat} (bound : stop ≤ tokens.size)
    (level : nesting.groups.length = depth) :
    let body := window tokens start ((closing? tokens start stop depth).getD stop)
    nesting.Inside body ∧
      ((closing? tokens start stop depth).isSome → (nesting.readAll body).groups = []) := by
  -- the depth of the search is the number of groups opened since, at every token
  fun_induction closing? tokens start stop depth generalizing nesting with
  | case1 start depth below wildcard ih =>
      have bounds := closing?_getD_bounds tokens (depth + 1) below
      have deeper : (nesting.read .wildcard).groups.length = depth + 1 := by
        simp [Nesting.read_groups_length, level]
      obtain ⟨inside, balanced⟩ := ih deeper
      dsimp only
      rw [window_cons bounds.1 wildcard]
      exact ⟨.cons (by simp) inside, balanced⟩
  | case2 start below closes =>
      intro body
      have empty : body = [] := window_empty (Nat.le_refl start)
      rw [empty]
      exact ⟨fun before => rfl, fun _ => List.eq_nil_of_length_eq_zero level⟩
  | case3 start depth below closes inner ih =>
      have bounds := closing?_getD_bounds tokens (depth - 1) below
      have shallower : (nesting.read .cancel).groups.length = depth - 1 := by
        simp [Nesting.read_groups_length, level]
      obtain ⟨inside, balanced⟩ := ih shallower
      have opened : nesting.groups ≠ [] := by
        intro none
        exact inner (by rw [← level, none, List.length_nil])
      dsimp only
      rw [window_cons bounds.1 closes]
      exact ⟨.cons (fun _ => opened) inside, balanced⟩
  | case4 start depth below notWildcard notCancel ih =>
      have bounds := closing?_getD_bounds tokens depth below
      obtain ⟨token, head⟩ : ∃ token, tokens[start]? = some token :=
        ⟨_, Array.getElem?_eq_getElem (Nat.lt_of_lt_of_le below bound)⟩
      have same : (nesting.read token).groups.length = depth := by
        rw [Nesting.read_groups_length]
        cases token with
        | wildcard => exact absurd head notWildcard
        | cancel => exact absurd head notCancel
        | key name => exact level
        | flatten => exact level
      obtain ⟨inside, balanced⟩ := ih same
      dsimp only
      rw [window_cons bounds.1 head]
      exact ⟨.cons (fun cancel => absurd (cancel ▸ head) notCancel) inside, balanced⟩
  | case5 start depth outside =>
      intro body
      have empty : body = [] := window_empty (Nat.le_of_not_lt outside)
      rw [empty]
      exact ⟨fun before => rfl, by simp⟩

theorem parse_window_open (within : start < stop) (bound : stop ≤ tokens.size)
    (head : tokens[start]? = some .wildcard)
    (unclosed : closing? tokens (start + 1) stop 0 = none) :
    parse (window tokens start stop) = [.group (parse (window tokens (start + 1) stop))] := by
  have inside := (@inside_window tokens (start + 1) stop {} 0 bound rfl).1
  rw [unclosed, Option.getD_none] at inside
  rw [window_cons within head, parse_wildcard_open _ inside]

theorem parse_window_closed {cancel : Nat} (within : start < stop) (bound : stop ≤ tokens.size)
    (head : tokens[start]? = some .wildcard)
    (closed : closing? tokens (start + 1) stop 0 = some cancel) :
    parse (window tokens start stop) =
      .group (parse (window tokens (start + 1) cancel)) ::
        parse (window tokens (cancel + 1) stop) := by
  obtain ⟨inside, balanced⟩ := @inside_window tokens (start + 1) stop {} 0 bound rfl
  rw [closed, Option.getD_some] at inside balanced
  obtain ⟨lower, upper⟩ := closing?_bounds closed
  rw [window_cons within head, window_append lower (Nat.le_of_lt upper),
    window_cons upper (closing?_cancel closed)]
  exact parse_wildcard_closed _ inside (balanced rfl)

@[simp] theorem mapError_ok {α ε ε' : Type} (value : α) (change : ε → ε') :
    (Except.ok value).mapError change = .ok value := rfl

@[simp] theorem mapError_error {α ε ε' : Type} (failure : ε) (change : ε → ε') :
    (Except.error failure : Except ε α).mapError change = .error (change failure) := rfl

theorem mapError_bind {α β ε ε' : Type} (attempt : Except ε α) (next : α → Except ε β)
    (change : ε → ε') :
    (attempt >>= next).mapError change =
      (attempt.mapError change >>= fun value => (next value).mapError change) := by
  cases attempt <;> rfl

theorem mapError_map {α β ε ε' : Type} (attempt : Except ε α) (next : α → β) (change : ε → ε') :
    (attempt.map next).mapError change = (attempt.mapError change).map next := by
  cases attempt <;> rfl

theorem absent_mapError_kind (resolver : Resolver) (failure : PathError) :
    (resolver.absent failure).mapError PathError.kind =
      Path.absent resolver.strict failure.kind := by
  unfold Resolver.absent Path.absent
  split <;> rfl

theorem collect_mapError_kind {resolve : Value → Except PathError (Option Value)}
    {evaluate : Value → Except ErrorKind (Option Value)}
    (agree : ∀ member, (resolve member).mapError PathError.kind = evaluate member)
    (members : List Value) :
    (collect members resolve).mapError PathError.kind =
      (members.mapM evaluate).map (·.filterMap id) := by
  induction members with
  | nil => rfl
  | cons member rest ih =>
      rw [collect, List.mapM_cons, mapError_bind, agree member]
      cases evaluate member with
      | error kind => rfl
      | ok found =>
          change Except.mapError _ (collect rest resolve >>= _) = _
          rw [mapError_bind, ih]
          cases rest.mapM evaluate with
          | error kind => rfl
          | ok others => cases found <;> rfl

variable [Record.Accessors]

theorem merge_mapError_kind (resolver : Resolver) (position : Nat) (members : List Value) :
    (resolver.merge position members).mapError PathError.kind =
      (members.mapM (membersOf resolver.strict)).map List.flatten := by
  induction members with
  | nil => rfl
  | cons member rest ih =>
      rw [merge, List.mapM_cons, membersOf]
      cases member.members? with
      | some inner =>
          dsimp only
          rw [mapError_map, ih]
          cases rest.mapM (membersOf resolver.strict) <;> rfl
      | none =>
          cases mode : resolver.strict with
          | true => rfl
          | false =>
              rw [mode] at ih
              rw [if_neg (by simp), ih]
              cases rest.mapM (membersOf false) <;> rfl

theorem resolve_mapError_kind (resolver : Resolver) (start stop : Nat)
    (bounds : start ≤ stop ∧ stop ≤ resolver.tokens.size) (current : Value) :
    (resolver.resolve start stop bounds current).mapError PathError.kind =
      evaluate resolver.strict (parse (window resolver.tokens start stop)) current := by
  fun_induction Resolver.resolve resolver start stop bounds current with
  | case1 start stop bounds current within name head child found ih =>
      rw [window_cons within (Array.getElem?_eq_some_iff.mpr ⟨_, head⟩), parse_key,
        evaluate_key found, ih]
  | case2 start stop bounds current within name head missing =>
      rw [window_cons within (Array.getElem?_eq_some_iff.mpr ⟨_, head⟩), parse_key,
        evaluate_key_absent missing, absent_mapError_kind]
      rfl
  | case3 start stop bounds current within head ih =>
      rw [window_cons within (Array.getElem?_eq_some_iff.mpr ⟨_, head⟩), parse_cancel, ih]
  | case4 start stop bounds current within head missing =>
      rw [window_cons within (Array.getElem?_eq_some_iff.mpr ⟨_, head⟩), parse_flatten,
        evaluate_flatten_absent missing, absent_mapError_kind]
      rfl
  | case5 start stop bounds current within head members found ih =>
      rw [window_cons within (Array.getElem?_eq_some_iff.mpr ⟨_, head⟩), parse_flatten,
        evaluate_flatten found, mapError_bind, merge_mapError_kind]
      simp only [ih]
  | case6 start stop bounds current within head missing =>
      have wildcard := Array.getElem?_eq_some_iff.mpr ⟨_, head⟩
      rw [absent_mapError_kind]
      cases closed : closing? resolver.tokens (start + 1) stop 0 with
      | none =>
          rw [parse_window_open within bounds.2 wildcard closed, evaluate_group_absent missing]
          rfl
      | some cancel =>
          rw [parse_window_closed within bounds.2 wildcard closed, evaluate_group_absent missing]
          rfl
  | case7 start stop bounds current within head members found cancel closed position inside behind =>
      rw [parse_window_closed within bounds.2 (Array.getElem?_eq_some_iff.mpr ⟨_, head⟩) closed,
        evaluate_group found, mapError_bind, collect_mapError_kind inside]
      simp only [behind]
  | case8 start stop bounds current within head members found unclosed inside =>
      rw [parse_window_open within bounds.2 (Array.getElem?_eq_some_iff.mpr ⟨_, head⟩) unclosed,
        evaluate_group found, mapError_bind, collect_mapError_kind inside]
      rfl
  | case9 start stop bounds current outside =>
      rw [window_empty (Nat.le_of_not_lt outside)]
      rfl

end Resolver

namespace Value

variable [Record.Accessors] (delimiter : Delimiter) (strict : Bool) (tokens : List Token)
  (root : Value)

theorem resolve_mapError_kind :
    (root.resolve delimiter strict tokens).mapError PathError.kind =
      Path.evaluate strict (Path.parse tokens) root := by
  rw [Value.resolve, Resolver.resolve_mapError_kind, Resolver.window_all]

theorem resolve_eq_ok_iff {found : Option Value} :
    root.resolve delimiter strict tokens = .ok found ↔
      Path.evaluate strict (Path.parse tokens) root = .ok found := by
  rw [← resolve_mapError_kind delimiter]
  cases root.resolve delimiter strict tokens <;> simp

theorem resolve_error_iff {kind : ErrorKind} :
    (∃ failure, root.resolve delimiter strict tokens = .error failure ∧ failure.kind = kind) ↔
      Path.evaluate strict (Path.parse tokens) root = .error kind := by
  rw [← resolve_mapError_kind delimiter]
  cases root.resolve delimiter strict tokens <;> simp

/-- Resolving a path by positions finds exactly what taking the steps of its structure
finds: the same value, nothing just when it finds nothing, and an error of the same kind
just when it fails. -/
theorem resolve_structural :
    (∀ found, root.resolve delimiter strict tokens = .ok found ↔
      Path.evaluate strict (Path.parse tokens) root = .ok found) ∧
    (∀ kind, (∃ failure, root.resolve delimiter strict tokens = .error failure ∧
        failure.kind = kind) ↔
      Path.evaluate strict (Path.parse tokens) root = .error kind) :=
  ⟨fun _ => resolve_eq_ok_iff delimiter strict tokens root,
    fun _ => resolve_error_iff delimiter strict tokens root⟩

end Value

end Reshape
