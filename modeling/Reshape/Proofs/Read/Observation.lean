import Reshape.Proofs.Read.Simulation
import Reshape.Value.View

namespace Reshape

theorem Value.typeName_view [Record.Display] (value : Value) :
    value.view.typeName = value.typeName := by
  cases value with
  | record shape fields => cases shape <;> rfl
  | null | bool | number | string | list | map => rfl

/-- A simulation that keeps what can be seen of a value, and relates to itself every value
that is no container. -/
structure Observation [Record.Accessors] (related : Value → Value → Prop) : Prop
    extends Simulation related where
  leaf : ∀ {value : Value}, value.isContainer = false → related value value
  view : ∀ {left right : Value}, related left right → left.view = right.view

/-- The forms that related values can have. -/
inductive Paired (related : Value → Value → Prop) : Value → Value → Prop where
  | leaf {value : Value} (scalar : value.isContainer = false) : Paired related value value
  | list {items others : List Value} (each : List.Forall₂ related items others) :
      Paired related (.list items) (.list others)
  | map {entries others : List (String × Value)} : Paired related (.map entries) (.map others)
  | record {shape other : Option Shape} {fields others : List (String × Value)} :
      Paired related (.record shape fields) (.record other others)

namespace Observation

open Value

variable {related : Value → Value → Prop} {left right : Value}

theorem rel_getD {α β : Type} {related : α → β → Prop} {first : Option α} {second : Option β}
    (same : Option.Rel related first second) {left : α} {right : β} (missing : related left right) :
    related (first.getD left) (second.getD right) := by
  cases same with
  | none => exact missing
  | some held => exact held

theorem rel_getElem? {α β : Type} {related : α → β → Prop} {lefts : List α} {rights : List β}
    (each : List.Forall₂ related lefts rights) (position : Nat) :
    Option.Rel related lefts[position]? rights[position]? := by
  induction each generalizing position with
  | nil => exact .none
  | cons here _ ih =>
      cases position with
      | zero => exact .some here
      | succ position => exact ih position

variable [Record.Accessors]

theorem typeName_eq (observation : Observation related) (same : related left right) :
    left.typeName = right.typeName := by
  rw [← typeName_view left, ← typeName_view right, observation.view same]

theorem text_eq (observation : Observation related) (same : related left right) :
    left.text = right.text := congrArg View.text (observation.view same)

theorem plain_eq (observation : Observation related) (same : related left right) :
    left.plain = right.plain := congrArg View.plain (observation.view same)

theorem same_eq (observation : Observation related) {first second : Value}
    (same : related left right) (also : related first second) :
    left.same first = right.same second := by
  unfold Value.same
  rw [observation.view same, observation.view also]

theorem paired (observation : Observation related) (same : related left right) :
    Paired related left right := by
  have named := observation.typeName_eq same
  cases left with
  | list items =>
      cases right with
      | list others =>
          obtain ⟨_, found, each⟩ := observation.members_of_some same rfl
          cases found
          exact .list each
      | null | bool | number | string | map | record => simp [typeName] at named
  | map entries =>
      cases right with
      | map others => exact .map
      | null | bool | number | string | list | record => simp [typeName] at named
  | record shape fields =>
      cases right with
      | record other others => exact .record
      | null | bool | number | string | list | map => simp [typeName] at named
  | null | bool | number | string =>
      have seen := observation.view same
      cases right with
      | list | map | record => simp [typeName] at named
      | null | bool | number | string => cases seen <;> exact .leaf rfl

/-- What holds of a value's members, and of what stands under its keys, where it holds of the
value, relates each value of which it holds to itself. -/
theorem of_kept {holds : Value → Prop}
    (child : ∀ {value child : Value} {key : String}, holds value → value.get? key = some child →
      holds child)
    (members : ∀ {value : Value} {members : List Value}, holds value →
      value.members? = some members → ∀ member ∈ members, holds member)
    (list : ∀ {items : List Value}, (∀ item ∈ items, holds item) → holds (.list items))
    (leaf : ∀ {value : Value}, value.isContainer = false → holds value) :
    Observation fun left right => holds left ∧ left = right where
  child := by
    rintro left _ ⟨held, rfl⟩ key
    cases found : left.get? key with
    | none => exact .none
    | some value => exact .some ⟨child held found, rfl⟩
  members := by
    rintro left _ ⟨held, rfl⟩
    cases found : left.members? with
    | none => exact .none
    | some parts =>
        exact .some (List.forall₂_same.mpr fun member inside => ⟨members held found member inside, rfl⟩)
  typeName := fun same _ => congrArg typeName same.2
  list := by
    intro lefts rights each
    rw [List.forall₂_and_left, List.forall₂_eq_eq_eq] at each
    exact ⟨list each.1, congrArg Value.list each.2⟩
  leaf := fun scalar => ⟨leaf scalar, rfl⟩
  view := fun same => congrArg Value.view same.2

end Observation

end Reshape
