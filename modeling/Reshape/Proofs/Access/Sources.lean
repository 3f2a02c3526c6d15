import Mathlib.Data.List.Forall2
import Mathlib.Data.Option.Basic
import Reshape.Record

namespace Reshape

/-- The stored field that a declared name shows: the one its getter reads, or its own if it
is public. -/
def FieldSpec.source? (spec : FieldSpec) (name : String) : Option String :=
  match spec.getter with
  | some getter => some getter.field
  | none => if spec.visibility = .shown then some name else none

theorem FieldSpec.source?_of_getter {spec : FieldSpec} {getter : Getter}
    (read : spec.getter = some getter) (name : String) : spec.source? name = some getter.field := by
  rw [source?, read]

theorem FieldSpec.source?_of_none {spec : FieldSpec} (read : spec.getter = none) (name : String) :
    spec.source? name = if spec.visibility = .shown then some name else none := by
  rw [source?, read]

namespace Shape

variable {α β : Type}

/-- The stored fields that some declared name shows. -/
def sources (shape : Shape) : List String :=
  shape.fields.filterMap fun declared => declared.2.source? declared.1

theorem mem_sources {shape : Shape} {field : String} :
    field ∈ shape.sources ↔
      ∃ name spec, (name, spec) ∈ shape.fields ∧ spec.source? name = some field := by
  simp [sources]

/-- The accessors work on the field that they are declared for. -/
def OwnAccessors (shape : Shape) : Prop :=
  ∀ name spec, (name, spec) ∈ shape.fields →
    (∀ getter, spec.getter = some getter → getter.field = name) ∧
    ∀ setter, spec.setter = some setter → setter.field = name

theorem mem_sources_iff {shape : Shape} (own : shape.OwnAccessors) {field : String} :
    field ∈ shape.sources ↔
      ∃ spec, (field, spec) ∈ shape.fields ∧
        (spec.visibility = .shown ∨ spec.getter.isSome) := by
  rw [mem_sources]
  constructor
  · rintro ⟨name, spec, declared, shown⟩
    cases read : spec.getter with
    | some getter =>
        rw [FieldSpec.source?_of_getter read, (own name spec declared).1 getter read] at shown
        cases shown
        exact ⟨spec, declared, .inr (by simp [read])⟩
    | none =>
        rw [FieldSpec.source?_of_none read, Option.ite_none_right_eq_some] at shown
        obtain ⟨visible, same⟩ := shown
        cases same
        exact ⟨spec, declared, .inl visible⟩
  · rintro ⟨spec, declared, readable⟩
    refine ⟨field, spec, declared, ?_⟩
    cases read : spec.getter with
    | some getter => rw [FieldSpec.source?_of_getter read, (own field spec declared).1 getter read]
    | none =>
        have visible : spec.visibility = .shown := by simpa [read] using readable
        rw [FieldSpec.source?_of_none read, if_pos visible]

section Reading

variable {related : α → β → Prop} {answer : Getter → α} {other : Getter → β} {stored : Entries α}
  {partner : Entries β}

theorem rel_readBy (answers : ∀ getter,
      Option.Rel related (stored.get? getter.field) (partner.get? getter.field) →
      related (answer getter) (other getter)) {spec : FieldSpec} {name : String}
    (sourced : ∀ field, spec.source? name = some field →
      Option.Rel related (stored.get? field) (partner.get? field)) :
    Option.Rel related (spec.readBy answer name stored) (spec.readBy other name partner) := by
  unfold FieldSpec.readBy
  cases read : spec.getter with
  | some getter =>
      exact .some (answers getter (sourced getter.field (FieldSpec.source?_of_getter read name)))
  | none =>
      dsimp only
      split
      · rename_i visible
        exact sourced name (by rw [FieldSpec.source?_of_none read, if_pos visible])
      · exact .none

theorem rel_readableBy (answers : ∀ getter,
      Option.Rel related (stored.get? getter.field) (partner.get? getter.field) →
      related (answer getter) (other getter)) {shape : Shape}
    (sourced : ∀ field ∈ shape.sources,
      Option.Rel related (stored.get? field) (partner.get? field)) :
    List.Forall₂ (fun left right => left.1 = right.1 ∧ related left.2 right.2)
      (shape.readableBy answer stored) (shape.readableBy other partner) := by
  have declared : List.Forall₂ (fun left right => left = right ∧ left ∈ shape.fields) shape.fields
      shape.fields := List.forall₂_same.mpr fun field member => ⟨rfl, member⟩
  refine List.rel_filterMap ?_ declared
  rintro ⟨name, spec⟩ _ ⟨rfl, member⟩
  have held : Option.Rel related (spec.readBy answer name stored)
      (spec.readBy other name partner) :=
    rel_readBy answers fun field shown =>
      sourced field (mem_sources.mpr ⟨name, spec, member, shown⟩)
  change Option.Rel _ ((spec.readBy answer name stored).map _)
    ((spec.readBy other name partner).map _)
  generalize spec.readBy answer name stored = found, spec.readBy other name partner = also at held
  cases held with
  | none => exact .none
  | some same => exact .some ⟨rfl, same⟩

end Reading

section Answers

variable {holds : α → Prop} {answer : Getter → α} {stored : Entries α}

theorem holds_of_readBy (answers : ∀ getter, holds (answer getter))
    (each : ∀ field value, stored.get? field = some value → holds value) {spec : FieldSpec}
    {name : String} {value : α} (read : spec.readBy answer name stored = some value) :
    holds value := by
  unfold FieldSpec.readBy at read
  split at read
  · rename_i getter _
    cases read
    exact answers getter
  · rw [Option.ite_none_right_eq_some] at read
    exact each name value read.2

theorem holds_of_readableBy (answers : ∀ getter, holds (answer getter))
    (each : ∀ field value, stored.get? field = some value → holds value) (shape : Shape) :
    ∀ entry ∈ shape.readableBy answer stored, holds entry.2 := by
  intro entry member
  obtain ⟨declared, _, shown⟩ := List.mem_filterMap.mp member
  obtain ⟨value, read, rfl⟩ := Option.map_eq_some_iff.mp shown
  exact holds_of_readBy answers each read

theorem names_readableBy (shape : Shape) (answer : Getter → α) (stored : Entries α) :
    (Entries.names (shape.readableBy answer stored)).Sublist (Entries.names shape.fields) := by
  unfold readableBy
  induction shape.fields with
  | nil => exact .slnil
  | cons declared rest ih =>
      obtain ⟨name, spec⟩ := declared
      simp only [List.filterMap_cons]
      cases spec.readBy answer name stored with
      | none => exact ih.cons name
      | some value => exact ih.cons_cons name

end Answers

end Shape

end Reshape
