import Reshape.Proofs.Read.Observation
import Reshape.Proofs.Write.Dynamic

namespace Reshape

open Value

/-- Writes that fail with the same error or leave related roots. -/
def Written.Agree (related : Value → Value → Prop) (left right : Written) : Prop :=
  left.failure = right.failure ∧ (left.failure = none → related left.root right.root)

namespace Congruence

variable {related : Value → Value → Prop} {left right : Value} {delimiter : Delimiter}

theorem failed_agree {failure : PathError} :
    Written.Agree related { root := left, failure := some failure }
      { root := right, failure := some failure } :=
  ⟨rfl, fun succeeded => nomatch succeeded⟩

theorem ofResult_agree {first second : Except PathError Value}
    (alike : Alike related first second) :
    Written.Agree related (.ofResult left first) (.ofResult right second) := by
  cases first <;> cases second
  · cases alike
    exact failed_agree
  · exact alike.elim
  · exact alike.elim
  · exact ⟨rfl, fun _ => alike⟩

theorem alike_blame {first second : Except AccessError Value} (alike : Alike related first second)
    (travelled : List String) (key : String) :
    Alike related (blame delimiter travelled key first) (blame delimiter travelled key second) := by
  cases first <;> cases second
  · cases alike
    rfl
  · exact alike.elim
  · exact alike.elim
  · exact alike

end Congruence

variable [Record.Accessors]

/-- An observation that a write under one key keeps. -/
structure Congruence (related : Value → Value → Prop) : Prop extends Observation related where
  map : related (.map []) (.map [])
  set : ∀ {left right item other : Value}, related left right → related item other →
    ∀ key, Alike related (left.set key item) (right.set key other)

namespace Slot

variable {container : Value} {key : String}

def within (container : Value) (key : String) : Slot :=
  match container with
  | .record shape fields => .property { shape, fields } key
  | other => .entry other key

theorem get_within (container : Value) (key : String) :
    (within container key).get = (container.get? key).getD .null := by
  cases container <;> rfl

theorem set_within (container : Value) (key : String) (value : Value) :
    (within container key).set value = container.set key value := by
  cases container <;> rfl

theorem obtain_eq (contained : container.isContainer) (key : String) (default : Value) :
    obtain container key default =
      if container.has key then .ok (within container key)
      else (container.set key default).map (within · key) := by
  cases container with
  | list items =>
      change (if _ then _ else ((setItem items key default).map list).map _) = _
      rw [Value.set]
      cases setItem items key default <;> rfl
  | map entries => rfl
  | record shape fields =>
      have present : (Value.record shape fields).has key = Record.has { shape, fields } key :=
        Value.has_record { shape, fields } key
      rw [present, obtain, Value.set]
      cases Record.set { shape, fields } key default <;> rfl
  | null | bool | number | string => contradiction

theorem obtain_of_leaf (leaf : container.isContainer = false) (key : String) (default : Value) :
    obtain container key default = .error (.unsupported container.typeName .getOrCreate) := by
  cases container with
  | list | map | record => contradiction
  | null | bool | number | string => rfl

/-- Slots through which the same is read and written. -/
structure Agree (related : Value → Value → Prop) (left right : Slot) : Prop where
  get : related left.get right.get
  set : ∀ {item other}, related item other → Alike related (left.set item) (right.set other)

end Slot

namespace Congruence

variable {related : Value → Value → Prop} (congruence : Congruence related)
  {left right item other : Value} {key : String} {delimiter : Delimiter}

theorem putBack_agree {first second : Slot} {child partner : Written}
    (slots : Slot.Agree related first second) (children : Written.Agree related child partner)
    (travelled : List String) :
    Written.Agree related (putBack delimiter travelled key first child)
      (putBack delimiter travelled key second partner) := by
  cases ended : child.failure with
  | some failure =>
      have failed := putBack_failed first ended delimiter travelled key
      have fails := putBack_failed second (children.1.symm.trans ended) delimiter travelled key
      exact ⟨failed.trans fails.symm, fun succeeded => nomatch failed.symm.trans succeeded⟩
  | none =>
      rw [putBack_succeeded first ended, putBack_succeeded second (children.1.symm.trans ended)]
      exact ofResult_agree (alike_blame (slots.set (children.2 ended)) travelled key)

include congruence

theorem agree_emptyFor (key : String) : related (emptyFor key) (emptyFor key) := by
  unfold emptyFor
  split
  · exact congruence.list .nil
  · exact congruence.map

theorem agree_containerFor (same : related left right) (key : String) :
    related (containerFor key left) (containerFor key right) := by
  unfold containerFor
  rw [congruence.isNull_eq same]
  split
  · exact agree_emptyFor congruence key
  · exact same

theorem agree_within (same : related left right) (key : String) :
    Slot.Agree related (Slot.within left key) (Slot.within right key) where
  get := by
    rw [Slot.get_within, Slot.get_within]
    exact Observation.rel_getD (congruence.child same key) (congruence.leaf rfl)
  set := by
    intro item other items
    rw [Slot.set_within, Slot.set_within]
    exact congruence.set same items key

theorem alike_obtain (same : related left right) (key : String) (items : related item other) :
    Alike (Slot.Agree related) (Slot.obtain left key item) (Slot.obtain right key other) := by
  have kinds := congruence.isContainer_eq_right same
  cases contained : left.isContainer with
  | false =>
      rw [Slot.obtain_of_leaf contained, Slot.obtain_of_leaf (kinds.symm.trans contained),
        congruence.typeName_eq same]
      rfl
  | true =>
      have readable : left.has key = right.has key := Simulation.isSome_eq (congruence.child same key)
      rw [Slot.obtain_eq contained, Slot.obtain_eq (kinds.symm.trans contained), readable]
      split
      · exact agree_within congruence same key
      · exact (congruence.set same items key).map fun _ _ written =>
          agree_within congruence written key

theorem setAt_agree (same : related left right) (travelled keys : List String)
    (items : related item other) :
    Written.Agree related (setAt delimiter travelled left keys item)
      (setAt delimiter travelled right keys other) := by
  induction keys generalizing travelled left right with
  | nil => exact ⟨rfl, fun _ => items⟩
  | cons key rest ih =>
      have containers := agree_containerFor congruence same key
      cases rest with
      | nil => exact ofResult_agree (alike_blame (congruence.set containers items key) travelled key)
      | cons next others =>
          have slots := alike_obtain congruence containers key (agree_emptyFor congruence next)
          rw [setAt, setAt]
          revert slots
          cases Slot.obtain (containerFor key left) key (emptyFor next) <;>
            cases Slot.obtain (containerFor key right) key (emptyFor next)
          · rintro ⟨⟩
            exact failed_agree
          · exact False.elim
          · exact False.elim
          · exact fun slots => putBack_agree slots (ih slots.get (travelled ++ [key])) travelled

theorem writeSet_agree (same : related left right) (path : PathForm) (items : related item other) :
    Written.Agree related (left.writeSet delimiter path item)
      (right.writeSet delimiter path other) := by
  unfold writeSet writing
  cases path.parse delimiter with
  | error failure => exact failed_agree
  | ok tokens =>
      dsimp only
      cases keysForWriting delimiter tokens with
      | error failure => exact failed_agree
      | ok keys => exact setAt_agree congruence same [] keys items

end Congruence

end Reshape
