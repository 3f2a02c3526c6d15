import Reshape.Access.Error
import Reshape.Value.View
/-!
Records. Reading goes through a getter first and then to a public field; writing goes
through a setter first and then to a public field. A record without a shape is dynamic:
all its fields are public, and new ones may be added.
-/

namespace Reshape

namespace Record

def toValue (record : Record) : Value := .record record.shape record.fields

def dynamic : Record := { shape := none, fields := [] }

instance : Inhabited Record := ⟨dynamic⟩

def typed (shape : Shape) : Record :=
  { shape := some shape, fields := shape.fields.map fun (name, _) => (name, .null) }

/-- Stores a field as it is, whatever the shape says. -/
def store (record : Record) (name : String) (value : Value) : Record :=
  { record with fields := record.fields.insert name value }

def stored? (record : Record) (name : String) : Option Value := record.fields.get? name

def typeName (record : Record) : String :=
  match record.shape with
  | some shape => shape.name
  | none => "dynamic"

/-- What the accessors do that shapes declare: what each getter answers, and what each setter
makes of the record when it is given a value. Both may use all that the record stores. -/
class Accessors extends Display where
  answer : Getter → Record → Value
  write : Setter → Record → Value → Record

/-- What a standard getter answers for a field that may be missing. -/
def answer (reading : Reading) (stored : Option Value) : Value :=
  let value := stored.getD .null
  match reading with
  | .stored | .custom _ => value
  | .upperCase => .string (value.plain.map Char.toUpper)
  | .withType => .list [value, .string value.typeName]

/-- What a standard setter puts into its field, unless it drops the value. -/
def storing? (storing : Storing) (value : Value) : Option Value :=
  match storing with
  | .plain | .custom _ => some value
  | .trimmed =>
      let isSpace (character : Char) := character == ' '
      let front := value.plain.toList.dropWhile isSpace
      some (.string (String.ofList (front.reverse.dropWhile isSpace).reverse))
  | .wrapped => some (.list [value])
  | .dropped => none

/-- Accessors that read and write the field which they name. -/
instance (priority := low) Accessors.standard : Accessors where
  answer getter record := Record.answer getter.reading (record.stored? getter.field)
  write setter record value :=
    (storing? setter.storing value).elim record (record.store setter.field)

def getBy (accessors : Accessors) (record : Record) (name : String) : Option Value :=
  match record.shape with
  | none => record.stored? name
  | some shape =>
      (shape.field? name).bind fun spec =>
        spec.readBy (accessors.answer · record) name record.fields

def get? [accessors : Accessors] (record : Record) (name : String) : Option Value :=
  record.getBy accessors name

/-- Whether a field can be read, as its declaration and the stored fields tell: with a getter
always, else when it is public and stored. -/
def has (record : Record) (name : String) : Bool :=
  match record.shape.bind (·.field? name) with
  | some spec => spec.getter.isSome || spec.visibility == .shown && record.fields.has name
  | none => record.shape.isNone && record.fields.has name

theorem has_eq_getBy (accessors : Accessors) (record : Record) (name : String) :
    record.has name = (record.getBy accessors name).isSome := by
  cases declared : record.shape with
  | none => simp [has, getBy, declared, stored?, Entries.has]
  | some shape =>
      cases found : shape.field? name with
      | none => simp [has, getBy, declared, found]
      | some spec =>
          cases reader : spec.getter with
          | some getter => simp [has, getBy, declared, found, reader, FieldSpec.readBy]
          | none =>
              by_cases shown : spec.visibility = .shown <;>
                simp [has, getBy, declared, found, reader, shown, FieldSpec.readBy, Entries.has]

theorem has_eq [accessors : Accessors] (record : Record) (name : String) :
    record.has name = (record.get? name).isSome :=
  has_eq_getBy accessors record name

def names (record : Record) : List String :=
  match record.shape with
  | none => record.fields.names
  | some shape => shape.fields.names.filter record.has

/-- The readable fields, in the order of declaration, or of insertion when dynamic. -/
def snapshotBy (accessors : Accessors) (record : Record) : Entries Value :=
  match record.shape with
  | none => record.fields
  | some shape => shape.readableBy (accessors.answer · record) record.fields

def snapshot [accessors : Accessors] (record : Record) : Entries Value :=
  record.snapshotBy accessors

def valuesBy (accessors : Accessors) (record : Record) : List Value :=
  (record.snapshotBy accessors).map (·.2)

def values [accessors : Accessors] (record : Record) : List Value := record.valuesBy accessors

def setBy (accessors : Accessors) (record : Record) (name : String) (value : Value) :
    Except AccessError Record :=
  match record.shape with
  | none => .ok (record.store name value)
  | some shape =>
      match shape.field? name with
      | none => .error (.notWritable name record.typeName .undeclaredField)
      | some spec =>
          match spec.setter with
          | some setter => .ok (accessors.write setter record value)
          | none =>
              if spec.visibility = .shown then .ok (record.store name value)
              else .error (.notWritable name record.typeName .hiddenField)

def set [accessors : Accessors] (record : Record) (name : String) (value : Value) :
    Except AccessError Record :=
  record.setBy accessors name value

/-- Whether a field may be removed: any field of a dynamic record, and a public field
that no getter answers for. -/
def removable (record : Record) (name : String) : Bool :=
  match record.shape with
  | none => true
  | some shape =>
      match shape.field? name with
      | some spec => spec.visibility == .shown && spec.getter.isNone
      | none => false

def remove (record : Record) (name : String) : Except AccessError Record :=
  if record.removable name then .ok { record with fields := record.fields.erase name }
  else .error (.notWritable name record.typeName .fixedField)

end Record

end Reshape
