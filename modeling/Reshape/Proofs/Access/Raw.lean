import Reshape.Access.Slot
import Reshape.Proofs.Access.Shapes

namespace Reshape

/-- The accessors of a field, where it has any, read and write the field itself. -/
def FieldSpec.Raw (name : String) (spec : FieldSpec) : Prop :=
  (∀ getter, spec.getter = some getter → getter = ⟨name, .stored⟩) ∧
    ∀ setter, spec.setter = some setter → setter = ⟨name, .plain⟩

def Shape.Raw (shape : Shape) : Prop :=
  ∀ name spec, shape.field? name = some spec → spec.Raw name

theorem Shape.raw_of_fields {shape : Shape} (each : ∀ entry ∈ shape.fields, entry.2.Raw entry.1) :
    shape.Raw :=
  fun name spec found => each (name, spec) (Entries.mem_of_get? found)

/-- A record of no declared shape has no accessors. -/
def rawShape (shape : Option Shape) : Prop := ∀ declared, shape = some declared → declared.Raw

theorem rawShape_some {shape : Shape} (raw : shape.Raw) : rawShape (some shape) :=
  fun _ same => Option.some.inj same ▸ raw

/-- All accessors of the records in the value are raw. -/
def Value.RawAccess (value : Value) : Prop := value.ShapedBy rawShape

namespace Record

variable {record : Record} {name : String}

theorem store_store (record : Record) (name : String) (first second : Value) :
    (record.store name first).store name second = record.store name second := by
  simp only [store, Entries.insert_insert]

theorem set_raw (raw : rawShape record.shape) (name : String) :
    (∃ failure, ∀ value, record.set name value = .error failure) ∨
      ∀ value, record.set name value = .ok (record.store name value) := by
  cases declared : record.shape with
  | none => exact .inr fun value => by simp only [set, setBy, declared]
  | some shape =>
      cases found : shape.field? name with
      | none => exact .inl ⟨_, fun value => by simp only [set, setBy, declared, found]; rfl⟩
      | some spec =>
          cases writer : spec.setter with
          | some setter =>
              have own := (raw shape declared name spec found).2 setter writer
              subst own
              exact .inr fun value => by simp only [set, setBy, declared, found, writer]; rfl
          | none =>
              by_cases shown : spec.visibility = .shown
              · exact .inr fun value => by simp only [set, setBy, declared, found, writer, if_pos shown]
              · exact .inl ⟨_, fun value => by
                  simp only [set, setBy, declared, found, writer, if_neg shown]; rfl⟩

theorem get?_raw (raw : rawShape record.shape) (readable : record.has name) :
    (record.get? name).getD .null = (record.stored? name).getD .null := by
  rw [has_eq] at readable
  unfold get? getBy at readable ⊢
  cases declared : record.shape with
  | none => rfl
  | some shape =>
      rw [declared] at readable
      cases found : shape.field? name with
      | none => simp [found] at readable
      | some spec =>
          cases reader : spec.getter with
          | some getter =>
              have own := (raw shape declared name spec found).1 getter reader
              subst own
              simp only [Option.bind_some, FieldSpec.readBy, reader, found]
              rfl
          | none =>
              by_cases shown : spec.visibility = .shown
              · simp only [found, Option.bind_some, FieldSpec.readBy, reader, if_pos shown, stored?]
              · simp [found, FieldSpec.readBy, reader, shown] at readable

end Record

end Reshape
