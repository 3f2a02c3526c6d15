import Reshape.Proofs.Path.Segment
import Reshape.Proofs.Read.Structure

namespace Reshape

variable [Record.Accessors]

/-- The value at literal keys, where each leads somewhere. -/
def Value.at? : Value → List String → Option Value
  | current, [] => some current
  | current, key :: rest => (current.get? key).bind (at? · rest)

theorem Value.at?_append (root : Value) (before after : List String) :
    root.at? (before ++ after) = (root.at? before).bind (at? · after) := by
  induction before generalizing root with
  | nil => rfl
  | cons key rest ih =>
      cases child : root.get? key with
      | none => simp [at?, child]
      | some value => simpa [at?, child] using ih value

/-- Keys that lead nowhere, taken apart where they stop: `before` leads to `found`, and there
the next key cannot be read. -/
structure Value.Stops (root : Value) (keys before : List String) (key : String)
    (after : List String) (found : Value) : Prop where
  split : keys = before ++ key :: after
  reached : root.at? before = some found
  unread : found.get? key = none

theorem Value.exists_stops {root : Value} {keys : List String} (absent : root.at? keys = none) :
    ∃ before key after found, root.Stops keys before key after found := by
  induction keys generalizing root with
  | nil => contradiction
  | cons key rest ih =>
      cases child : root.get? key with
      | none => exact ⟨[], key, rest, root, rfl, rfl, child⟩
      | some value =>
          obtain ⟨before, next, after, found, stops⟩ :=
            @ih value (by simpa [at?, child] using absent)
          refine ⟨key :: before, next, after, found, ?_, ?_, stops.unread⟩
          · rw [stops.split, List.cons_append]
          · rw [at?, child, Option.bind_some, stops.reached]

theorem Value.Stops.absent {root found : Value} {keys before after : List String} {key : String}
    (stops : root.Stops keys before key after found) : root.at? keys = none := by
  rw [stops.split, at?_append, stops.reached, Option.bind_some, at?, stops.unread,
    Option.bind_none]

theorem Path.evaluate_keys (strict : Bool) (current : Value) (keys : List String) :
    evaluate strict (keys.map .key) current =
      match current.at? keys with
      | some found => .ok (some found)
      | none => absent strict .pathNotExist := by
  induction keys generalizing current with
  | nil => rfl
  | cons key rest ih =>
      cases child : current.get? key with
      | none => simp [evaluate_key_absent child, Value.at?, child]
      | some value => simp [evaluate_key child, Value.at?, child, ih]

theorem Resolver.resolve_of_stops (resolver : Resolver) (strict : resolver.strict = true)
    (start stop : Nat) (bounds : start ≤ stop ∧ stop ≤ resolver.tokens.size)
    {before after : List String} {key : String} {current found : Value}
    (spelled : window resolver.tokens start stop = (before ++ key :: after).map .key)
    (reached : current.at? before = some found) (unread : found.get? key = none) :
    resolver.resolve start stop bounds current =
      .error (.notExist key (resolver.travelled (start + before.length))) := by
  induction before generalizing start current with
  | nil =>
      cases reached
      obtain ⟨within, head, _⟩ := window_eq_cons spelled
      obtain ⟨_, token⟩ := Array.getElem?_eq_some_iff.mp head
      rw [Resolver.resolve, dif_pos within, token]
      simp [unread, absent, strict]
  | cons first rest ih =>
      obtain ⟨child, here, below⟩ := Option.bind_eq_some_iff.mp reached
      obtain ⟨within, head, behind⟩ := window_eq_cons spelled
      obtain ⟨_, token⟩ := Array.getElem?_eq_some_iff.mp head
      have onward := ih (start + 1) ⟨within, bounds.2⟩ behind below
      rw [Resolver.resolve, dif_pos within, token]
      simp only [here, onward, List.length_cons]
      rw [Nat.add_right_comm, Nat.add_assoc]

namespace Value

variable (delimiter : Delimiter) (root : Value) (keys : List String)

theorem resolve_keys_lenient :
    root.resolve delimiter false (keys.map .key) = .ok (root.at? keys) := by
  rw [resolve_eq_ok_iff, Path.parse_keys, Path.evaluate_keys]
  cases root.at? keys <;> rfl

theorem lookup?_keys {path : PathForm} (parsed : path.parse delimiter = .ok (keys.map .key)) :
    root.lookup? delimiter path = root.at? keys := by
  simp only [lookup?, parsed, resolve_keys_lenient]

/-- A strict reading fails with the key at which its path stops, and the keys before it. -/
theorem resolve_of_stops {before after : List String} {key : String} {found : Value}
    (stops : root.Stops keys before key after found) :
    root.resolve delimiter true (keys.map .key) =
      .error (.notExist key (delimiter.joinKeys before)) := by
  obtain ⟨split, reached, unread⟩ := stops
  have spelled := (Resolver.window_all (keys.map .key)).trans (congrArg (List.map Token.key) split)
  rw [resolve, Resolver.resolve_of_stops _ rfl _ _ _ spelled reached unread, Nat.zero_add, split]
  simp [Resolver.travelled, Delimiter.joinKeys_eq]

theorem read_of_stops {path : PathForm} (parsed : path.parse delimiter = .ok (keys.map .key))
    {before after : List String} {key : String} {found : Value}
    (stops : root.Stops keys before key after found) :
    root.read delimiter true path = .error (.notExist key (delimiter.joinKeys before)) := by
  simp only [read, parsed, bind, Except.bind, resolve_of_stops delimiter root keys stops]

theorem read_strict_keys_iff {path : PathForm} (parsed : path.parse delimiter = .ok (keys.map .key))
    {value : Value} : root.read delimiter true path = .ok value ↔ root.at? keys = some value := by
  have strictly := resolve_mapError_kind delimiter true (keys.map .key) root
  rw [Path.parse_keys, Path.evaluate_keys] at strictly
  simp only [read, parsed, bind, Except.bind, pure, Except.pure]
  cases result : root.resolve delimiter true (keys.map .key) <;>
    cases found : root.at? keys <;>
    simp_all [Path.absent]

end Value

end Reshape
