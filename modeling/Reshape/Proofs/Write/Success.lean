import Reshape.Proofs.Write.Lens
/-!
Which writes succeed. A write goes along the longest part of its path that leads somewhere.
What stands there must make room for the next key, and below it every container is created
with one member, so every further key must be a name or the first position of a list.
-/

namespace Reshape.Value

variable {delimiter : Delimiter} {travelled keys rest before after : List String}
  {root current container found value : Value} {key : String} {failure : PathError}

theorem blame_failure_kind {travelled : List String} {before : Value} {key : String}
    {outcome : Except AccessError Value}
    (refused : (Written.ofResult before (blame delimiter travelled key outcome)).failure =
      some failure) : failure.kind = .pathNotWritable := by
  cases outcome with
  | error reason =>
      cases refused
      rfl
  | ok after => contradiction

/-- A key that a new container takes: a name, or the position of its first item. -/
def Fresh (key : String) : Prop := index? key = none ∨ index? key = some 0

theorem accepts_emptyFor_iff : (emptyFor key).accepts key ↔ Fresh key := by
  unfold emptyFor Fresh
  cases spelled : index? key with
  | none => simp [accepts]
  | some index => simp [accepts, spelled]

section

variable [Record.Accessors]

theorem setAt_failure_kind {travelled keys : List String} {current : Value}
    (failed : (setAt delimiter travelled current keys value).failure = some failure) :
    failure.kind = .pathNotWritable := by
  induction keys generalizing travelled current with
  | nil => contradiction
  | cons key rest ih =>
      cases rest with
      | nil => exact blame_failure_kind failed
      | cons next others =>
          rw [setAt] at failed
          split at failed
          · rename_i slot obtained
            cases below : (setAt delimiter (travelled ++ [key]) slot.get (next :: others)
                value).failure with
            | some reason =>
                rw [putBack_failed slot below] at failed
                cases failed
                exact ih below
            | none =>
                rw [putBack_succeeded slot below] at failed
                exact blame_failure_kind failed
          · cases failed
            rfl

theorem writeSet_failure_kind {path : PathForm} {keys : List String}
    (parsed : path.parse delimiter = .ok (keys.map .key))
    (failed : (root.writeSet delimiter path value).failure = some failure) :
    failure.kind = .pathNotWritable := by
  rw [writeSet_keys parsed] at failed
  exact setAt_failure_kind failed

/-- Whether a value takes a key under which it holds nothing. Null becomes a container for it,
a map takes any name, and a list goes on right behind its last item. -/
def MakesRoom (found : Value) (key : String) : Prop :=
  match found with
  | .null => Fresh key
  | .map _ => True
  | .list items => index? key = some items.length
  | _ => False

def holding (key : String) (child : Value) : Value :=
  if (index? key).isSome then .list [child] else .map [(key, child)]

theorem put_emptyFor (accepted : (emptyFor key).accepts key) (child : Value) :
    (emptyFor key).put key child = holding key child := by
  rcases accepts_emptyFor_iff.mp accepted with named | first
  · rw [emptyFor, holding, named]
    rfl
  · rw [emptyFor, holding, first]
    exact @put_list key _ [] 0 first (Nat.le_refl 0) child

theorem accepts_iff_makesRoom (unread : current.get? key = none) :
    (containerFor key current).accepts key ↔ current.MakesRoom key := by
  cases current with
  | null => exact accepts_emptyFor_iff
  | list items =>
      cases spelled : index? key with
      | none => simp [containerFor, isNull, accepts, MakesRoom, spelled]
      | some index =>
          have outside : items.length ≤ index := by simpa [get?, spelled] using unread
          simp [containerFor, isNull, accepts, MakesRoom, spelled]
          omega
  | map entries => simp [containerFor, isNull, accepts, MakesRoom]
  | bool | number | string | record => simp [containerFor, isNull, accepts, MakesRoom]

theorem setAt_valueUnder (unread : container.get? key = none) (value : Value) :
    setAt delimiter travelled (valueUnder container key rest) rest value =
      setAt delimiter travelled .null rest value := by
  rw [valueUnder, unread, Option.getD_none, setAt_scaffold]

theorem setAt_succeeds_of_unread (free : current.RecordFree) (unread : current.get? key = none) :
    (setAt delimiter travelled current (key :: rest) value).failure = none ↔
      current.MakesRoom key ∧
        (setAt delimiter (travelled ++ [key]) .null rest value).failure = none := by
  rw [← accepts_iff_makesRoom unread]
  cases accepted : (containerFor key current).accepts key with
  | false =>
      obtain ⟨reason, refused⟩ := setAt_of_refuses free accepted delimiter travelled rest
      simp [refused]
  | true =>
      have vacant : (containerFor key current).get? key = none :=
        (get?_containerFor current key key).trans unread
      rw [setAt_of_accepts accepted]
      simp [setAt_valueUnder vacant]

theorem setAt_null_succeeds_iff :
    (setAt delimiter travelled .null keys value).failure = none ↔ ∀ key ∈ keys, Fresh key := by
  induction keys generalizing travelled with
  | nil => simp [setAt]
  | cons key rest ih =>
      have free : null.RecordFree := trivial
      rw [setAt_succeeds_of_unread free rfl, ih, List.forall_mem_cons]
      rfl

theorem setAt_succeeds_of_stops (free : current.RecordFree)
    (stops : current.Stops keys before key after found) :
    (setAt delimiter travelled current keys value).failure = none ↔
      found.MakesRoom key ∧ ∀ later ∈ after, Fresh later := by
  obtain ⟨split, reached, unread⟩ := stops
  subst split
  induction before generalizing travelled current with
  | nil =>
      cases reached
      rw [List.nil_append, setAt_succeeds_of_unread free unread, setAt_null_succeeds_iff]
  | cons first rest ih =>
      obtain ⟨child, here, below⟩ := Option.bind_eq_some_iff.mp reached
      have container := containerFor_of_get? here
      have accepted := (put_of_get? free.inPlace here).1
      rw [List.cons_append, setAt_of_accepts (container.symm ▸ accepted), container,
        valueUnder_of_get? here]
      exact ih (free.get? here) below

theorem setAt_succeeds_of_at? (free : current.RecordFree) (reached : current.at? keys = some found)
    (value : Value) : (setAt delimiter travelled current keys value).failure = none := by
  have unchanged : setAt delimiter travelled current keys found = { root := current } :=
    setAt_of_at? free reached
  exact (setAt_setAt free (congrArg Written.failure unchanged) value).2

/-- Where nothing or null stood on the way, a write that succeeds has made the container that
the next key calls for. -/
theorem at?_setAt_created (free : current.RecordFree)
    (written : (setAt delimiter travelled current (before ++ key :: after) value).failure = none)
    (vacant : current.at? before = none ∨ current.at? before = some .null) :
    ∃ child, (setAt delimiter travelled current (before ++ key :: after) value).root.at? before =
      some (holding key child) := by
  induction before generalizing travelled current with
  | nil =>
      have blank : current = .null := by simpa [at?] using vacant
      subst blank
      have accepted : (containerFor key .null).accepts key := accepts_of_setAt free written
      rw [List.nil_append, setAt_of_accepts accepted]
      exact ⟨_, congrArg some (put_emptyFor accepted _)⟩
  | cons first rest ih =>
      have accepted := accepts_of_setAt free written
      rw [List.cons_append, setAt_of_accepts accepted] at written ⊢
      rw [at?, get?_put accepted, Option.bind_some]
      cases here : current.get? first with
      | some child =>
          have container := containerFor_of_get? here
          rw [container, valueUnder_of_get? here] at written ⊢
          exact ih (free.get? here) written (by simpa [at?, here] using vacant)
      | none =>
          have unread : (containerFor first current).get? first = none :=
            (get?_containerFor current first first).trans here
          -- from here on the write is one into null, so all that it passes is new
          rw [setAt_valueUnder unread] at written ⊢
          refine ih trivial written ?_
          cases rest with
          | nil => exact .inr rfl
          | cons next others => exact .inl rfl

/-- The longest part of a path short of the whole that leads somewhere, the key behind it, and
the value that it leads to. -/
structure LongestPart (root : Value) (keys before : List String) (key : String)
    (after : List String) (found : Value) : Prop where
  split : keys = before ++ key :: after
  reached : root.at? before = some found
  longest : ∀ longer, longer <+: keys → longer ≠ keys → before.length < longer.length →
    root.at? longer = none

theorem LongestPart.stops (part : root.LongestPart keys before key after found)
    (absent : root.at? keys = none) : root.Stops keys before key after found := by
  obtain ⟨split, reached, longest⟩ := part
  refine ⟨split, reached, ?_⟩
  have extended : root.at? (before ++ [key]) = none := by
    by_cases whole : before ++ [key] = keys
    · rw [whole, absent]
    · refine longest _ ⟨after, ?_⟩ whole (by simp)
      rw [split, List.append_assoc, List.singleton_append]
  simpa [at?_append, reached, at?] using extended

theorem Stops.longestPart (stops : root.Stops keys before key after found) :
    root.LongestPart keys before key after found := by
  refine ⟨stops.split, stops.reached, fun longer shorter _ further => ?_⟩
  have begins : before ++ [key] <+: longer := by
    refine List.prefix_of_prefix_length_le ⟨after, ?_⟩ shorter
      (by rw [List.length_append]; exact further)
    rw [stops.split, List.append_assoc, List.singleton_append]
  obtain ⟨others, same⟩ := begins
  rw [← same, List.append_assoc]
  exact (Stops.mk rfl stops.reached stops.unread).absent

theorem exists_longestPart (root : Value) (nonempty : keys ≠ []) :
    ∃ before key after found, root.LongestPart keys before key after found := by
  cases reached : root.at? keys with
  | none =>
      obtain ⟨before, key, after, found, stops⟩ := exists_stops reached
      exact ⟨before, key, after, found, stops.longestPart⟩
  | some value =>
      have split := (List.dropLast_append_getLast nonempty).symm
      rw [split, at?_append] at reached
      obtain ⟨found, front, _⟩ := Option.bind_eq_some_iff.mp reached
      refine ⟨_, _, [], found, split, front, ?_⟩
      intro longer shorter different further
      have bound := shorter.length_le
      rw [List.length_dropLast] at further
      exact absurd (shorter.eq_of_length (by omega)) different

/-- A write at literal keys fails for nothing but a place that cannot be written. It succeeds
if the whole path leads somewhere already, or if what the longest part of it leads to makes
room for the next key and the keys behind that one can be the first in new containers. Those
are then lists where the key below is an index, and maps elsewhere. -/
theorem writeSet_succeeds_iff {path : PathForm} (free : root.RecordFree)
    (parsed : path.parse delimiter = .ok (keys.map .key)) (nonempty : keys ≠ []) (value : Value) :
    let written := root.writeSet delimiter path value
    (∀ failure, written.failure = some failure → failure.kind = .pathNotWritable) ∧
    (∃ before key after found, root.LongestPart keys before key after found) ∧
    (∀ before key after found, root.LongestPart keys before key after found →
      (written.failure = none ↔
        (root.at? keys).isSome ∨ found.MakesRoom key ∧ ∀ later ∈ after, Fresh later)) ∧
    (written.failure = none → ∀ before key after, keys = before ++ key :: after →
      root.at? before = none ∨ root.at? before = some .null →
      ∃ child, written.root.at? before = some (holding key child)) := by
  intro written
  have along : written = setAt delimiter [] root keys value := writeSet_keys parsed root value
  refine ⟨fun failure => writeSet_failure_kind parsed, exists_longestPart root nonempty, ?_, ?_⟩
  · intro before key after found part
    rw [along]
    cases reached : root.at? keys with
    | some held => simp [setAt_succeeds_of_at? free reached value]
    | none => simp [setAt_succeeds_of_stops free (part.stops reached)]
  · intro succeeded before key after split vacant
    subst split
    rw [along] at succeeded ⊢
    exact at?_setAt_created free succeeded vacant

end

/-- The path goes on behind the last item of a list, through a new map and a new list. -/
theorem writeSet_succeeds_iff_creating :
    let root : Value := .map [("l", .list [.bool true])]
    let found : Value := .list [.bool true]
    let written := root.writeSet .dot (.text "l.1.x.0") .null
    root.RecordFree ∧ root.LongestPart ["l", "1", "x", "0"] ["l"] "1" ["x", "0"] found ∧
      found.MakesRoom "1" ∧ (∀ later ∈ ["x", "0"], Fresh later) ∧ written.failure = none ∧
      ∃ child, written.root.at? ["l", "1"] = some (holding "x" child) := by
  intro root found written
  have free : root.RecordFree := ⟨⟨trivial, trivial⟩, trivial⟩
  have stops : root.Stops ["l", "1", "x", "0"] ["l"] "1" ["x", "0"] found := ⟨rfl, rfl, rfl⟩
  have room : found.MakesRoom "1" := rfl
  have fresh : ∀ later ∈ ["x", "0"], Fresh later := by unfold Fresh; decide
  obtain ⟨_, _, succeeds, created⟩ :=
    @writeSet_succeeds_iff .dot ["l", "1", "x", "0"] root _ (.text "l.1.x.0") free rfl (by simp) .null
  have succeeded : written.failure = none :=
    (succeeds _ _ _ _ stops.longestPart).mpr (.inr ⟨room, fresh⟩)
  exact ⟨free, stops.longestPart, room, fresh, succeeded,
    created succeeded ["l", "1"] "x" ["0"] rfl (.inl rfl)⟩

end Reshape.Value
