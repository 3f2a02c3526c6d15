import Mathlib.Logic.Relation
import Reshape.Proofs.Write.Set
/-!
What a failed write leaves behind. It has gone down its path and added empty containers on
the way: in the place of null, at the end of a list, or as the last entry of a map. Each such
step keeps what stood anywhere, so the whole run of them does, and no step looks at the
value that was to be written.
-/

namespace Reshape.Value

open Relation

variable {delimiter : Delimiter} {travelled keys rest place : List String}
  {root current container before after child next held bare value : Value} {key other : String}
  {failure : PathError}

def Bare (value : Value) : Prop := value = .list [] ∨ value = .map []

theorem bare_emptyFor (key : String) : (emptyFor key).Bare := by
  unfold emptyFor
  split
  · exact .inl rfl
  · exact .inr rfl

theorem Bare.recordFree (empty : bare.Bare) : bare.RecordFree := by
  rcases empty with rfl | rfl <;> exact trivial

/-- What a value may become when empty containers are added in and below it: a list or map
keeps its items or names and may go on behind them, and all else stays the same. -/
def ContinuedBy (before after : Value) : Prop :=
  match before with
  | .list items => ∃ others, after = .list others ∧ items.length ≤ others.length
  | .map entries => ∃ others, after = .map others ∧ Entries.names entries <+: Entries.names others
  | before => after = before

theorem ContinuedBy.refl (value : Value) : value.ContinuedBy value := by
  cases value with
  | list items => exact ⟨items, rfl, Nat.le_refl _⟩
  | map entries => exact ⟨entries, rfl, List.prefix_refl _⟩
  | null | bool | number | string | record => rfl

theorem ContinuedBy.trans (first : before.ContinuedBy next) (second : next.ContinuedBy after) :
    before.ContinuedBy after := by
  cases before with
  | list items =>
      obtain ⟨others, rfl, longer⟩ := first
      obtain ⟨more, rfl, onward⟩ := second
      exact ⟨more, rfl, Nat.le_trans longer onward⟩
  | map entries =>
      obtain ⟨others, rfl, longer⟩ := first
      obtain ⟨more, rfl, onward⟩ := second
      exact ⟨more, rfl, longer.trans onward⟩
  | null | bool | number | string | record =>
      cases first
      exact second

theorem ContinuedBy.present (continued : before.ContinuedBy after)
    (present : before.isNull = false) : after.isNull = false := by
  cases before with
  | list | map =>
      obtain ⟨others, rfl, _⟩ := continued
      rfl
  | null => contradiction
  | bool | number | string | record =>
      cases continued
      rfl

section

variable [Record.Accessors]

/-- One addition of an empty container on the way along the keys. -/
inductive Scaffolds : (keys : List String) → (before after : Value) → Prop
  | replaced {key : String} {rest : List String} {bare : Value} (empty : bare.Bare) :
      Scaffolds (key :: rest) .null bare
  | appended {key : String} {rest : List String} {items : List Value} {bare : Value}
      (behind : index? key = some items.length) (empty : bare.Bare) :
      Scaffolds (key :: rest) (.list items) (.list (items ++ [bare]))
  | added {key : String} {rest : List String} {entries : List (String × Value)} {bare : Value}
      (absent : key ∉ Entries.names entries) (empty : bare.Bare) :
      Scaffolds (key :: rest) (.map entries) (.map (entries ++ [(key, bare)]))
  | inside {key : String} {rest : List String} {container child next : Value}
      (found : container.get? key = some child) (step : Scaffolds rest child next) :
      Scaffolds (key :: rest) container (container.put key next)

theorem put_behind {items : List Value} (behind : index? key = some items.length) (value : Value) :
    (list items).put key value = .list (items ++ [value]) := by
  rw [put_list behind (Nat.le_refl _), itemsAfter, if_neg (Nat.lt_irrefl _)]

theorem put_absent {entries : List (String × Value)} (absent : key ∉ Entries.names entries)
    (value : Value) : (map entries).put key value = .map (entries ++ [(key, value)]) := by
  rw [put_map, Entries.insert_of_not_mem absent]

theorem scaffolds_put (accepted : container.accepts key) (unread : container.get? key = none)
    (empty : bare.Bare) : Scaffolds (key :: rest) container (container.put key bare) := by
  cases container with
  | list items =>
      obtain ⟨index, spelled, bound⟩ := accepts_list accepted
      have outside : items.length ≤ index := by simpa [get?, spelled] using unread
      have behind : index? key = some items.length :=
        spelled.trans (congrArg some (Nat.le_antisymm bound outside))
      rw [put_behind behind]
      exact .appended behind empty
  | map entries =>
      have absent : key ∉ Entries.names entries := Entries.not_mem_of_get? unread
      rw [put_absent absent]
      exact .added absent empty
  | null | bool | number | string | record => contradiction

theorem containerFor_scaffolds (current : Value) (key : String) (rest : List String) :
    ReflTransGen (Scaffolds (key :: rest)) current (containerFor key current) := by
  cases current with
  | null => exact .single (.replaced (bare_emptyFor key))
  | bool | number | string | list | map | record => exact .refl

theorem put_scaffolds (accepted : container.accepts key)
    (run : ReflTransGen (Scaffolds rest) before after) :
    ReflTransGen (Scaffolds (key :: rest)) (container.put key before) (container.put key after) := by
  refine run.lift (container.put key) fun first second step => ?_
  change Scaffolds (key :: rest) (container.put key first) (container.put key second)
  rw [← put_put accepted first second]
  exact .inside (get?_put accepted first) step

theorem setAt_scaffolds (free : current.RecordFree)
    (failed : (setAt delimiter travelled current keys value).failure = some failure) :
    ReflTransGen (Scaffolds keys) current (setAt delimiter travelled current keys value).root := by
  induction keys generalizing travelled current with
  | nil => contradiction
  | cons key rest ih =>
      have opened := containerFor_scaffolds current key rest
      have containerFree := recordFree_containerFor free key
      cases accepted : (containerFor key current).accepts key with
      | false =>
          obtain ⟨reason, refused⟩ := setAt_of_refuses free accepted delimiter travelled rest
          rw [refused]
          exact opened
      | true =>
          -- null opens to a container, the child is created where there is none, and the rest of
          -- the run is one below the key
          rw [setAt_of_accepts accepted] at failed ⊢
          have run := put_scaffolds accepted
            (ih (recordFree_valueUnder containerFree key rest) failed)
          refine opened.trans (.trans ?_ run)
          cases found : (containerFor key current).get? key with
          | some child =>
              rw [valueUnder_of_get? found, (put_of_get? containerFree.inPlace found).2]
          | none =>
              cases rest with
              | nil => contradiction
              | cons next others =>
                  rw [valueUnder, found]
                  exact .single (scaffolds_put accepted found (bare_emptyFor next))

theorem continuedBy_put (accepted : container.accepts key) (value : Value) :
    container.ContinuedBy (container.put key value) := by
  cases container with
  | list items =>
      obtain ⟨index, spelled, bound⟩ := accepts_list accepted
      exact ⟨_, put_list spelled bound value, (itemsAfter_length bound value).1⟩
  | map entries =>
      refine ⟨_, put_map value, ?_⟩
      rw [Entries.names_insert]
      split
      · exact List.prefix_refl _
      · exact List.prefix_append _ _
  | null | bool | number | string | record => contradiction

/-- What stood anywhere before stands there still, and a list or map there at most goes on
behind its end. Null may have made way for a container. -/
def Retains (before after : Value) : Prop :=
  ∀ place held, before.at? place = some held → held.isNull = false →
    ∃ now, after.at? place = some now ∧ held.ContinuedBy now

theorem Retains.refl (value : Value) : value.Retains value :=
  fun _ held there _ => ⟨held, there, .refl held⟩

theorem Retains.trans (first : before.Retains next) (second : next.Retains after) :
    before.Retains after := by
  intro place held there present
  obtain ⟨between, reached, continued⟩ := first place held there present
  obtain ⟨now, standing, onward⟩ := second place between reached (continued.present present)
  exact ⟨now, standing, continued.trans onward⟩

theorem retains_put (accepted : container.accepts key)
    (kept : ∀ child, container.get? key = some child → child.Retains value) :
    container.Retains (container.put key value) := by
  intro place held there present
  cases place with
  | nil =>
      cases there
      exact ⟨_, rfl, continuedBy_put accepted value⟩
  | cons other below =>
      obtain ⟨child, here, inside⟩ := Option.bind_eq_some_iff.mp there
      by_cases same : container.SamePlace key other
      · obtain ⟨now, standing, continued⟩ :=
          kept child ((get?_of_samePlace same).trans here) below held inside present
        refine ⟨now, ?_, continued⟩
        rw [at?, get?_put_samePlace accepted same, Option.bind_some, standing]
      · refine ⟨held, ?_, .refl held⟩
        rw [at?, get?_put_apart accepted same, here, Option.bind_some, inside]

theorem Scaffolds.retains (step : Scaffolds keys before after) (free : before.RecordFree) :
    before.Retains after := by
  induction step with
  | replaced empty =>
      intro place held there present
      cases place with
      | nil =>
          cases there
          contradiction
      | cons other below => contradiction
  | @appended key rest items bare behind empty =>
      have accepted : (list items).accepts key := by simp [accepts, behind]
      rw [← put_behind behind]
      refine retains_put accepted fun child here => ?_
      simp [get?, behind] at here
  | @added key rest entries bare absent empty =>
      rw [← put_absent absent]
      refine retains_put rfl fun child here => ?_
      rw [get?, Entries.get?_of_not_mem absent] at here
      contradiction
  | @inside key rest container child next found step ih =>
      refine retains_put (put_of_get? free.inPlace found).1 fun held here => ?_
      cases found.symm.trans here
      exact ih (free.get? found)

theorem Scaffolds.recordFree (step : Scaffolds keys before after) (free : before.RecordFree) :
    after.RecordFree := by
  induction step with
  | replaced empty => exact empty.recordFree
  | @appended key rest items bare behind empty =>
      rw [← put_behind behind]
      exact free.put (by simp [accepts, behind]) empty.recordFree
  | added absent empty =>
      rw [← put_absent absent]
      exact free.put rfl empty.recordFree
  | inside found step ih => exact free.put (put_of_get? free.inPlace found).1 (ih (free.get? found))

theorem retains_of_scaffolds (run : ReflTransGen (Scaffolds keys) before after)
    (free : before.RecordFree) : before.Retains after := by
  induction run using ReflTransGen.head_induction_on with
  | refl => exact .refl after
  | head step _ ih => exact (step.retains free).trans (ih (step.recordFree free))

theorem setAt_failure_ignores (free : current.RecordFree)
    (failed : (setAt delimiter travelled current keys value).failure = some failure)
    (other : Value) :
    setAt delimiter travelled current keys other = setAt delimiter travelled current keys value := by
  induction keys generalizing travelled current with
  | nil => contradiction
  | cons key rest ih =>
      cases accepted : (containerFor key current).accepts key with
      | false =>
          obtain ⟨reason, refused⟩ := setAt_of_refuses free accepted delimiter travelled rest
          rw [refused, refused]
      | true =>
          rw [setAt_of_accepts accepted] at failed
          have childFree := recordFree_valueUnder (recordFree_containerFor free key) key rest
          rw [setAt_of_accepts accepted, setAt_of_accepts accepted, ih childFree failed]

/-- A path is one of literal keys, or it cannot be written to whatever the value is. -/
theorem writeSet_keys_or_fails (delimiter : Delimiter) (root : Value) (path : PathForm) :
    (∃ keys : List String, path.parse delimiter = .ok (keys.map .key)) ∨
      ∃ failure, ∀ value, root.writeSet delimiter path value = { root, failure := some failure } := by
  cases parsed : path.parse delimiter with
  | error failure => exact .inr ⟨failure, fun value => by simp only [writeSet, writing, parsed]⟩
  | ok tokens =>
      cases literal : keysForWriting delimiter tokens with
      | error failure =>
          exact .inr ⟨failure, fun value => by simp only [writeSet, writing, parsed, literal]⟩
      | ok keys => exact .inl ⟨keys, congrArg Except.ok (keysForWriting_eq_ok literal)⟩

/-- The keys on a path. Operators, and all of what is no path, have none. -/
def keysOn (delimiter : Delimiter) (path : PathForm) : List String :=
  match path.parse delimiter with
  | .ok tokens => tokens.filterMap Token.key?
  | .error _ => []

theorem keysOn_keys {path : PathForm} (parsed : path.parse delimiter = .ok (keys.map .key)) :
    keysOn delimiter path = keys := by
  simp only [keysOn, parsed, List.filterMap_map]
  exact List.filterMap_some

/-- A write that fails has added empty containers on its way and nothing else: all that stood
anywhere before is retained, and the root left behind is the same for every value that was to
be written. With an operator in its path a write fails before it adds anything. -/
theorem writeSet_failed_scaffolds (free : root.RecordFree) (delimiter : Delimiter)
    (path : PathForm) (value : Value) :
    let written := root.writeSet delimiter path value
    (∀ failure, written.failure = some failure →
      ReflTransGen (Scaffolds (keysOn delimiter path)) root written.root ∧
      root.Retains written.root ∧
      ∀ other, root.writeSet delimiter path other = written) ∧
    (∀ tokens, path.parse delimiter = .ok tokens → (∃ token ∈ tokens, token.isOperator) →
      written.root = root ∧ written.failure.isSome) := by
  intro written
  rcases writeSet_keys_or_fails delimiter root path with ⟨keys, parsed⟩ | ⟨reason, fails⟩
  · have along := writeSet_keys parsed root
    refine ⟨fun failure failed => ?_, fun tokens found operator => ?_⟩
    · change (root.writeSet delimiter path value).failure = some failure at failed
      rw [along] at failed
      have run := setAt_scaffolds free failed
      simp only [written, along, keysOn_keys parsed]
      exact ⟨run, retains_of_scaffolds run free, setAt_failure_ignores free failed⟩
    · cases parsed.symm.trans found
      obtain ⟨token, member, operates⟩ := operator
      obtain ⟨key, _, rfl⟩ := List.mem_map.mp member
      contradiction
  · have same : written = { root, failure := some reason } := fails value
    refine ⟨fun failure failed => ?_, fun tokens found operator => ?_⟩
    · rw [same]
      exact ⟨.refl, .refl root, fails⟩
    · rw [same]
      exact ⟨rfl, rfl⟩

end

/-- The write replaces a null by a map, creates a list in it, and stops at the second position
of that list. -/
theorem writeSet_failed_scaffolds_halfway :
    let root : Value := .map [("k", .bool true), ("a", .null)]
    let written := root.writeSet .dot (.text "a.b.1") (.string "v")
    root.RecordFree ∧ written.failure.isSome ∧
      written.root = .map [("k", .bool true), ("a", .map [("b", .list [])])] ∧
      ReflTransGen (Scaffolds ["a", "b", "1"]) root written.root ∧ root.Retains written.root ∧
      ∀ other, root.writeSet .dot (.text "a.b.1") other = written := by
  intro root written
  have free : root.RecordFree := ⟨trivial, trivial, trivial⟩
  obtain ⟨failure, failed⟩ : ∃ failure, written.failure = some failure := ⟨_, rfl⟩
  obtain ⟨run, retained, ignored⟩ :=
    (writeSet_failed_scaffolds free .dot (.text "a.b.1") (.string "v")).1 failure failed
  exact ⟨free, rfl, rfl, run, retained, ignored⟩

end Reshape.Value
