import Reshape.Proofs.Access.Raw
import Reshape.Proofs.Write.Set
/-!
What a write leaves of what was stored. Off its path a write touches nothing, however deep
in lists, maps and records, and where it fails it leaves also what its path leads to. It
loses what a property holds that it can write but not read: it takes such a property for
absent, and writes a fresh container over it.
-/

namespace Reshape.Value

variable {delimiter : Delimiter} {travelled keys place rest : List String}
  {root current child held value : Value} {key other : String}

def heldAt? : Value → List String → Option Value
  | current, [] => some current
  | current, key :: below => (current.held? key).bind (heldAt? · below)

/-- A place at the path or below it. -/
def Covers : Value → (path place : List String) → Prop
  | _, [], _ => True
  | current, key :: rest, other :: below =>
      current.SamePlace key other ∧
        ∃ child, current.held? other = some child ∧ child.Covers rest below
  | _, _ :: _, [] => False

/-- A place that the path leads through to somewhere below it. -/
def Passes : Value → (path place : List String) → Prop
  | _, _ :: _, [] => True
  | current, key :: rest, other :: below =>
      current.SamePlace key other ∧
        ∃ child, current.held? other = some child ∧ child.Passes rest below
  | _, [], _ => False

/-- A key that can be written and not read. -/
def Blind (container : Value) (key : String) : Prop :=
  container.has key = false ∧ ∃ value after, container.set key value = .ok after

/-- A place below a blind key, which the path goes on from as well. -/
def Overlooks : Value → (path place : List String) → Prop
  | current, key :: next :: rest, other :: below =>
      current.SamePlace key other ∧
        (current.Blind key ∧ below ≠ [] ∨
          ∃ child, current.held? other = some child ∧ child.Overlooks (next :: rest) below)
  | _, _, _ => False

theorem heldAt?_cons (here : current.held? key = some child) (below : List String) :
    current.heldAt? (key :: below) = child.heldAt? below := by
  rw [heldAt?, here, Option.bind_some]

theorem Overlooks.under (same : current.SamePlace key other)
    (here : current.held? other = some child) (overlooked : child.Overlooks rest place) :
    current.Overlooks (key :: rest) (other :: place) := by
  cases rest with
  | nil => exact overlooked.elim
  | cons next others => exact ⟨same, .inr ⟨child, here, overlooked⟩⟩

theorem held?_inPlace (place : current.inPlace) (key : String) :
    current.held? key = current.get? key := by
  cases current with
  | record shape fields => contradiction
  | null | bool | number | string | list | map => rfl

theorem held?_store (record : Record) (key other : String) (value : Value) :
    (record.store key value).toValue.held? other =
      if key = other then some value else record.toValue.held? other :=
  Entries.get?_insert key other value record.fields

theorem containerFor_of_held? (found : current.held? other = some child) :
    containerFor key current = current := by
  cases current with
  | null => contradiction
  | bool | number | string | list | map | record => rfl

/-- What a write at a first key does to something that the container holds: nothing, or
what the write along the rest of the path does there, or anything below a blind key. -/
inductive Touch (delimiter : Delimiter) (value current : Value) (key other : String)
    (rest : List String) (child : Value) (written : Written) : Prop
  | spared (held : written.root.held? other = some child)
  | entered (same : current.SamePlace key other) (travelled : List String)
      (held : written.root.held? other =
        some (setAt delimiter travelled child rest value).root)
      (ended : written.failure = (setAt delimiter travelled child rest value).failure)
  | overlooked (same : current.SamePlace key other) (blind : current.Blind key)
      (below : rest ≠ []) (after : Value) (held : written.root.held? other = some after)

theorem touch_inPlace (place : current.inPlace) (found : current.held? other = some child) :
    Touch delimiter value current key other rest child
      (setAt delimiter travelled current (key :: rest) value) := by
  have same : containerFor key current = current := containerFor_of_held? found
  rw [held?_inPlace place] at found
  cases accepted : current.accepts key with
  | false =>
      obtain ⟨reason, refused⟩ := setAt_of_refuses_inPlace (same.symm ▸ place)
        (same.symm ▸ accepted) delimiter travelled rest
      rw [same] at refused
      exact .spared (by rw [refused, held?_inPlace place, found])
  | true =>
      have written := @setAt_of_accepts delimiter _ travelled rest current key
        (same.symm ▸ accepted) value
      rw [same] at written
      have stays : ∀ placed, (current.put key placed).inPlace := fun placed =>
        inPlace_of_accepts (accepts_put accepted placed)
      rw [written]
      by_cases here : current.SamePlace key other
      · rw [valueUnder_of_get? ((get?_of_samePlace here).trans found)]
        refine .entered here (travelled ++ [key]) ?_ rfl
        rw [held?_inPlace (stays _), get?_put_samePlace accepted here]
      · exact .spared (by rw [held?_inPlace (stays _), get?_put_apart accepted here, found])

theorem setAt_obtained {slot : Slot} {next : String}
    (obtained : Slot.obtain (containerFor key current) key (emptyFor next) = .ok slot)
    (value : Value) :
    setAt delimiter travelled current (key :: next :: rest) value =
      putBack delimiter travelled key slot
        (setAt delimiter (travelled ++ [key]) slot.get (next :: rest) value) := by
  simp only [setAt, obtained]

theorem putBack_property {record : Record} (raw : rawShape record.shape) (child : Written) :
    let written := putBack delimiter travelled key (.property record key) child
    written.root = record.toValue ∨
      written.root = (record.store key child.root).toValue ∧ written.failure = child.failure := by
  obtain ⟨root, failure⟩ := child
  cases failure with
  | some reason => exact .inl rfl
  | none =>
      rcases record.set_raw raw key with ⟨refusal, refused⟩ | stores
      · exact .inl (by simp only [putBack, Slot.set, refused]; rfl)
      · exact .inr (by simp only [putBack, Slot.set, stores]; exact ⟨rfl, rfl⟩)

theorem Touch.stored {record : Record} {placed : Value} {written : Written}
    (found : record.toValue.held? other = some child)
    (root : written.root = (record.store key placed).toValue)
    (here : key = other → written.root.held? other = some placed →
      Touch delimiter value record.toValue key other rest child written) :
    Touch delimiter value record.toValue key other rest child written := by
  by_cases same : key = other
  · exact here same (by rw [root, held?_store, if_pos same])
  · exact .spared (by rw [root, held?_store, if_neg same, found])

theorem touch_last {record : Record} (raw : rawShape record.shape)
    (found : record.toValue.held? other = some child) :
    Touch delimiter value record.toValue key other [] child
      (setAt delimiter travelled record.toValue [key] value) := by
  have written : setAt delimiter travelled record.toValue [key] value =
      .ofResult record.toValue
        (blame delimiter travelled key ((record.set key value).map Record.toValue)) := rfl
  rw [written]
  rcases record.set_raw raw key with ⟨refusal, refused⟩ | stores
  · rw [refused]
    exact .spared found
  · rw [stores]
    exact .stored found rfl fun same held => .entered same travelled held rfl

theorem touch_readable {record : Record} {next : String} (raw : rawShape record.shape)
    (found : record.toValue.held? other = some child) (readable : record.has key) :
    Touch delimiter value record.toValue key other (next :: rest) child
      (setAt delimiter travelled record.toValue (key :: next :: rest) value) := by
  have obtained : Slot.obtain (containerFor key record.toValue) key (emptyFor next) =
      .ok (.property record key) := if_pos readable
  have read : (Slot.property record key).get = (record.stored? key).getD .null :=
    record.get?_raw raw readable
  rw [setAt_obtained obtained, read]
  rcases putBack_property raw _ with kept | ⟨root, ended⟩
  · exact .spared (by rw [kept, found])
  · apply Touch.stored found root
    intro same held
    cases same
    have here : (record.stored? key).getD .null = child := by
      rw [show record.stored? key = some child from found, Option.getD_some]
    rw [here] at held ended ⊢
    exact .entered rfl (travelled ++ [key]) held ended

/-- What was stored is gone even where the write below fails. -/
theorem touch_unreadable {record : Record} {next : String} (raw : rawShape record.shape)
    (found : record.toValue.held? other = some child) (unreadable : record.has key = false) :
    Touch delimiter value record.toValue key other (next :: rest) child
      (setAt delimiter travelled record.toValue (key :: next :: rest) value) := by
  have obtained : Slot.obtain (containerFor key record.toValue) key (emptyFor next) =
      (record.set key (emptyFor next)).map (.property · key) :=
    if_neg (Bool.eq_false_iff.mp unreadable)
  rcases record.set_raw raw key with ⟨refusal, refused⟩ | stores
  · rw [refused] at obtained
    have written : (setAt delimiter travelled record.toValue (key :: next :: rest) value).root =
        record.toValue := by
      simp only [setAt, obtained]
      rfl
    exact .spared (by rw [written, found])
  · rw [stores] at obtained
    let fresh := record.store key (emptyFor next)
    have blind : record.toValue.Blind key :=
      ⟨(has_record record key).trans unreadable, .null, _,
        congrArg (·.map Record.toValue) (stores .null)⟩
    rw [setAt_obtained obtained]
    rcases @putBack_property delimiter travelled key fresh raw _ with kept | ⟨root, ended⟩
    · exact .stored found kept fun same held => .overlooked same blind (by simp) _ held
    · rw [record.store_store] at root
      exact .stored found root fun same held => .overlooked same blind (by simp) _ held

theorem touch_record (record : Record) (raw : rawShape record.shape)
    (found : record.toValue.held? other = some child) :
    Touch delimiter value record.toValue key other rest child
      (setAt delimiter travelled record.toValue (key :: rest) value) := by
  cases rest with
  | nil => exact touch_last raw found
  | cons next others =>
      cases readable : record.has key with
      | true => exact touch_readable raw found readable
      | false => exact touch_unreadable raw found readable

theorem setAt_touch (raw : current.RawAccess) (found : current.held? other = some child) :
    Touch delimiter value current key other rest child
      (setAt delimiter travelled current (key :: rest) value) := by
  cases current with
  | record shape fields => exact touch_record ⟨shape, fields⟩ raw.1 found
  | null | bool | number | string | list | map => exact touch_inPlace rfl found

theorem heldAt?_setAt (raw : current.RawAccess) (stored : current.heldAt? place = some held)
    (seen : ¬ current.Overlooks keys place) :
    let written := setAt delimiter travelled current keys value
    ¬ current.Covers keys place ∨ written.failure.isSome →
      ∃ after, written.root.heldAt? place = some after ∧
        (current.Passes keys place ∨ after = held) := by
  -- along the path: what becomes of the child that leads to the place decides the step
  induction keys generalizing travelled current place with
  | nil =>
      rintro written (uncovered | failed)
      · exact absurd trivial uncovered
      · contradiction
  | cons key rest ih =>
      intro written spared
      cases place with
      | nil => exact ⟨written.root, rfl, .inl trivial⟩
      | cons other below =>
          obtain ⟨child, here, under⟩ := Option.bind_eq_some_iff.mp stored
          have touch : Touch delimiter value current key other rest child written :=
            setAt_touch raw here
          cases touch with
          | spared kept => exact ⟨held, (heldAt?_cons kept below).trans under, .inr rfl⟩
          | entered same travelled kept ended =>
              have seenBelow : ¬ child.Overlooks rest below :=
                fun overlooked => seen (.under same here overlooked)
              have sparedBelow : ¬ child.Covers rest below ∨
                  (setAt delimiter travelled child rest value).failure.isSome := by
                rw [← ended]
                exact spared.imp_left fun uncovered covered =>
                  uncovered ⟨same, child, here, covered⟩
              obtain ⟨after, later, outcome⟩ := ih (raw.held? here) under seenBelow sparedBelow
              exact ⟨after, (heldAt?_cons kept below).trans later,
                outcome.imp_left fun passes => ⟨same, child, here, passes⟩⟩
          | overlooked same blind goesOn after kept =>
              obtain ⟨next, others, rfl⟩ := List.exists_cons_of_ne_nil goesOn
              cases below with
              | nil => exact ⟨after, heldAt?_cons kept [], .inl ⟨same, child, here, trivial⟩⟩
              | cons name deeper => exact absurd ⟨same, .inl ⟨blind, by simp⟩⟩ seen

/-- A write, in a value whose accessors are all raw, keeps what is stored anywhere off its
path, and where it fails also what is stored at the path and below it. What lies on the way
is still there, changed only below. The one exception is what a property holds that the
path goes on from and that can be written but not read. -/
theorem writeSet_retains {path : PathForm} (raw : root.RawAccess)
    (parsed : path.parse delimiter = .ok (keys.map .key))
    (stored : root.heldAt? place = some held) (seen : ¬ root.Overlooks keys place)
    (spared : ¬ root.Covers keys place ∨ (root.writeSet delimiter path value).failure.isSome) :
    ∃ after, (root.writeSet delimiter path value).root.heldAt? place = some after ∧
      (root.Passes keys place ∨ after = held) := by
  rw [writeSet_keys parsed] at spared ⊢
  exact heldAt?_setAt raw stored seen spared

/-- The write stops at a list below a property that is read and written as it is stored. -/
theorem writeSet_retains_readable :
    let shape : Shape :=
      { name := "Box"
        fields := [("f", { visibility := .hidden, getter := some ⟨"f", .stored⟩,
                           setter := some ⟨"f", .plain⟩ })] }
    let root : Value := .record (some shape) [("f", .map [("b", .list [.bool true])])]
    let written := root.writeSet .dot (.text "f.b.2") .null
    root.RawAccess ∧ ¬ root.Overlooks ["f", "b", "2"] ["f", "b", "0"] ∧
      written.failure.isSome ∧
      ∃ after, written.root.heldAt? ["f", "b", "0"] = some after ∧
        (root.Passes ["f", "b", "2"] ["f", "b", "0"] ∨ after = .bool true) := by
  intro shape root written
  have fields : shape.Raw := Shape.raw_of_fields (by simp [shape, FieldSpec.Raw])
  have raw : root.RawAccess := ⟨rawShape_some fields, ⟨⟨trivial, trivial⟩, trivial⟩, trivial⟩
  have seen : ¬ root.Overlooks ["f", "b", "2"] ["f", "b", "0"] := by
    rintro ⟨-, ⟨⟨unread, -⟩, -⟩ | ⟨_, ⟨⟩, -, ⟨⟨unread, -⟩, -⟩ | ⟨_, ⟨⟩, ⟨⟩⟩⟩⟩
    · exact absurd unread (by decide)
    · exact absurd unread (by decide)
  have failed : written.failure.isSome := by decide
  exact ⟨raw, seen, failed, writeSet_retains raw rfl rfl seen (.inr failed)⟩

/-- A property that can be written and not read loses what it holds off the path, whether
the write below it fails or succeeds. -/
theorem writeSet_drops_unread :
    let shape : Shape :=
      { name := "Box"
        fields := [("f", { visibility := .hidden, setter := some ⟨"f", .plain⟩ })] }
    let kept : Value := .number (.int 10)
    let value : Value := .number (.int 20)
    let root : Value := .record (some shape) [("f", .map [("b", .list [kept])])]
    let failing := root.writeSet .dot (.text "f.b.1") value
    let succeeding := root.writeSet .dot (.text "f.c") value
    root.RawAccess ∧ root.heldAt? ["f", "b", "0"] = some kept ∧
      ¬ root.Covers ["f", "b", "1"] ["f", "b", "0"] ∧ failing.failure.isSome ∧
      failing.root.heldAt? ["f"] = some (.map []) ∧
      ¬ root.Covers ["f", "c"] ["f", "b", "0"] ∧ succeeding.failure = none ∧
      succeeding.root.heldAt? ["f"] = some (.map [("c", value)]) := by
  intro shape kept value root failing succeeding
  have fields : shape.Raw := Shape.raw_of_fields (by simp [shape, FieldSpec.Raw])
  have raw : root.RawAccess := ⟨rawShape_some fields, ⟨⟨trivial, trivial⟩, trivial⟩, trivial⟩
  refine ⟨raw, rfl, ?_, by decide, rfl, ?_, by decide, rfl⟩
  · rintro ⟨-, _, ⟨⟩, -, _, ⟨⟩, apart, -⟩
    exact absurd apart (by unfold SamePlace; decide)
  · rintro ⟨-, _, ⟨⟩, apart, -⟩
    exact absurd apart (by unfold SamePlace; decide)

end Reshape.Value
