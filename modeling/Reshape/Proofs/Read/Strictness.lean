import Reshape.Proofs.Read.Keys

namespace Reshape

namespace Path

theorem mapM_lenient_total {α : Type} {resolve : Value → Except ErrorKind α}
    (total : ∀ member, ∃ found, resolve member = .ok found) (members : List Value) :
    ∃ found, members.mapM resolve = .ok found := by
  induction members with
  | nil => exact ⟨[], rfl⟩
  | cons member rest ih =>
      obtain ⟨first, atFirst⟩ := total member
      obtain ⟨others, atOthers⟩ := ih
      exact ⟨first :: others, by rw [List.mapM_cons, atFirst, atOthers]; rfl⟩

theorem mapM_refines {α : Type} {strictly leniently : Value → Except ErrorKind α}
    (refines : ∀ member found, strictly member = .ok found → leniently member = .ok found)
    {members : List Value} {found : List α} (answered : members.mapM strictly = .ok found) :
    members.mapM leniently = .ok found := by
  induction members generalizing found with
  | nil => exact answered
  | cons member rest ih =>
      rw [List.mapM_cons] at answered ⊢
      cases first : strictly member with
      | error kind => simp [first, bind, Except.bind] at answered
      | ok value =>
          cases others : rest.mapM strictly with
          | error kind => simp [first, others, bind, Except.bind] at answered
          | ok values =>
              rw [refines member value first, ih others]
              rw [first, others] at answered
              exact answered

variable [Record.Accessors]

theorem membersOf_lenient_total (member : Value) :
    ∃ inner, membersOf false member = .ok inner := by
  unfold membersOf
  split <;> exact ⟨_, rfl⟩

theorem membersOf_refines (member : Value) (inner : List Value)
    (answered : membersOf true member = .ok inner) : membersOf false member = .ok inner := by
  unfold membersOf at answered ⊢
  cases found : member.members? with
  | some members => simpa [found] using answered
  | none => simp [found] at answered

theorem evaluate_lenient_total (steps : List Step) (current : Value) :
    ∃ found, evaluate false steps current = .ok found := by
  induction steps using steps_induction generalizing current with
  | nil => exact ⟨_, rfl⟩
  | key name rest ih =>
      cases child : current.get? name with
      | none => exact ⟨_, evaluate_key_absent child⟩
      | some value =>
          rw [evaluate_key child]
          exact ih value
  | flatten rest ih =>
      cases members : current.members? with
      | none => exact ⟨_, evaluate_flatten_absent members⟩
      | some values =>
          obtain ⟨inner, merged⟩ := mapM_lenient_total membersOf_lenient_total values
          rw [evaluate_flatten members, merged]
          exact ih _
  | group body rest inside behind =>
      cases members : current.members? with
      | none => exact ⟨_, evaluate_group_absent members⟩
      | some values =>
          obtain ⟨found, collected⟩ := mapM_lenient_total inside values
          rw [evaluate_group members, collected]
          exact behind _

theorem evaluate_strict_ne_none (steps : List Step) (current : Value) :
    evaluate true steps current ≠ .ok none := by
  induction steps using steps_induction generalizing current with
  | nil => simp [evaluate]
  | key name rest ih =>
      cases child : current.get? name with
      | none => simp [evaluate_key_absent child, absent]
      | some value =>
          rw [evaluate_key child]
          exact ih value
  | flatten rest ih =>
      cases members : current.members? with
      | none => simp [evaluate_flatten_absent members, absent]
      | some values =>
          rw [evaluate_flatten members]
          cases values.mapM (membersOf true) with
          | error kind => simp [Except.map, bind, Except.bind]
          | ok inner => exact ih _
  | group body rest inside behind =>
      cases members : current.members? with
      | none => simp [evaluate_group_absent members, absent]
      | some values =>
          rw [evaluate_group members]
          cases values.mapM (evaluate true body) with
          | error kind => simp [Except.map, bind, Except.bind]
          | ok found => exact behind _

/-- Strict reading finds something in every member or fails, so that nothing is left out
of a group that it collects. -/
theorem evaluate_refines (steps : List Step) (current : Value) (found : Option Value)
    (answered : evaluate true steps current = .ok found) :
    evaluate false steps current = .ok found := by
  induction steps using steps_induction generalizing current found with
  | nil => exact answered
  | key name rest ih =>
      cases child : current.get? name with
      | none => simp [evaluate_key_absent child, absent] at answered
      | some value =>
          rw [evaluate_key child] at answered ⊢
          exact ih value found answered
  | flatten rest ih =>
      cases members : current.members? with
      | none => simp [evaluate_flatten_absent members, absent] at answered
      | some values =>
          rw [evaluate_flatten members] at answered ⊢
          cases merged : values.mapM (membersOf true) with
          | error kind => simp [merged, Except.map, bind, Except.bind] at answered
          | ok inner =>
              rw [mapM_refines membersOf_refines merged]
              rw [merged] at answered
              exact ih _ found answered
  | group body rest inside behind =>
      cases members : current.members? with
      | none => simp [evaluate_group_absent members, absent] at answered
      | some values =>
          rw [evaluate_group members] at answered ⊢
          cases collected : values.mapM (evaluate true body) with
          | error kind => simp [collected, Except.map, bind, Except.bind] at answered
          | ok results =>
              rw [mapM_refines inside collected]
              rw [collected] at answered
              exact behind _ found answered

end Path

namespace Value

section

variable [Record.Accessors] {delimiter : Delimiter} {root : Value} {tokens : List Token}
  {path : PathForm}

theorem resolve_lenient_total : ∃ found, root.resolve delimiter false tokens = .ok found := by
  obtain ⟨found, evaluated⟩ := Path.evaluate_lenient_total (Path.parse tokens) root
  exact ⟨found, (resolve_eq_ok_iff ..).mpr evaluated⟩

theorem resolve_strict_ne_none : root.resolve delimiter true tokens ≠ .ok none := by
  intro nothing
  exact Path.evaluate_strict_ne_none _ _ ((resolve_eq_ok_iff ..).mp nothing)

theorem resolve_refines {found : Option Value}
    (answered : root.resolve delimiter true tokens = .ok found) :
    root.resolve delimiter false tokens = .ok found :=
  (resolve_eq_ok_iff ..).mpr (Path.evaluate_refines _ _ _ ((resolve_eq_ok_iff ..).mp answered))

/-- Without groups and merges a path is a list of keys, and what strict reading misses
lenient reading does not find either. -/
theorem resolve_strict_error_iff
    (plain : ∀ token ∈ tokens, token ≠ .wildcard ∧ token ≠ .flatten) :
    (∃ failure, root.resolve delimiter true tokens = .error failure) ↔
      root.resolve delimiter false tokens = .ok none := by
  have strictly := resolve_mapError_kind delimiter true tokens root
  rw [resolve_eq_ok_iff, Path.parse_plain plain, Path.evaluate_keys]
  rw [Path.parse_plain plain, Path.evaluate_keys] at strictly
  cases result : root.resolve delimiter true tokens <;>
    cases found : root.at? (tokens.filterMap Token.key?) <;>
    simp_all [Path.absent]

theorem lookup?_eq_of_resolve (parsed : path.parse delimiter = .ok tokens) {found : Option Value}
    (resolved : root.resolve delimiter false tokens = .ok found) :
    root.lookup? delimiter path = found := by
  simp only [lookup?, parsed, resolved]

theorem read_eq_of_resolve {strict : Bool} (parsed : path.parse delimiter = .ok tokens)
    {found : Option Value} (resolved : root.resolve delimiter strict tokens = .ok found) :
    root.read delimiter strict path = .ok (found.getD .null) := by
  simp only [read, parsed, resolved, bind, Except.bind, pure, Except.pure]

/-- Strict and lenient reading of one path agree as far as strict reading succeeds, and
without groups and merges they also agree on what is not there. -/
theorem resolve_strict_lenient (parsed : path.parse delimiter = .ok tokens) :
    (∃ found, root.resolve delimiter false tokens = .ok found) ∧
    root.resolve delimiter true tokens ≠ .ok none ∧
    (∀ value, root.resolve delimiter true tokens = .ok (some value) →
      root.resolve delimiter false tokens = .ok (some value) ∧
        root.pathExists delimiter path = true) ∧
    ((∀ token ∈ tokens, token ≠ .wildcard ∧ token ≠ .flatten) →
      ((∃ failure, root.resolve delimiter true tokens = .error failure) ↔
        root.resolve delimiter false tokens = .ok none) ∧
      (root.resolve delimiter false tokens = .ok none →
        root.read delimiter false path = .ok .null ∧
          root.pathExists delimiter path = false)) := by
  refine ⟨resolve_lenient_total, resolve_strict_ne_none, ?_, ?_⟩
  · intro value answered
    have leniently := resolve_refines answered
    exact ⟨leniently, by simp [pathExists, lookup?_eq_of_resolve parsed leniently]⟩
  · intro plain
    refine ⟨resolve_strict_error_iff plain, ?_⟩
    intro nothing
    exact ⟨read_eq_of_resolve parsed nothing,
      by simp [pathExists, lookup?_eq_of_resolve parsed nothing]⟩

end

/-- Every member of the group has the key, and beside the group a key is missing. -/
theorem resolve_strict_lenient_in_group :
    let root : Value := .map [("a", .list [.map [("b", .null)], .map [("b", .bool true)]])]
    PathForm.parse .dot (.text "a.*.b") = .ok [.key "a", .wildcard, .key "b"] ∧
      root.pathExists .dot (.text "a.*.b") = true ∧
      root.read .dot false (.text "a.b") = .ok .null := by
  intro root
  have inGroup : PathForm.parse .dot (.text "a.*.b") = .ok [.key "a", .wildcard, .key "b"] := rfl
  have beside : PathForm.parse .dot (.text "a.b") = .ok [.key "a", .key "b"] := rfl
  have found : root.resolve .dot true [.key "a", .wildcard, .key "b"] =
      .ok (some (.list [.null, .bool true])) := (resolve_eq_ok_iff ..).mpr rfl
  have missing : root.resolve .dot false [.key "a", .key "b"] = .ok none :=
    (resolve_eq_ok_iff ..).mpr rfl
  exact ⟨inGroup, ((resolve_strict_lenient inGroup).2.2.1 _ found).2,
    (((resolve_strict_lenient beside).2.2.2 (by decide)).2 missing).1⟩

end Value

end Reshape
