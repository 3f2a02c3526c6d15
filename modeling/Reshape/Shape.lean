import Reshape.Entries
/-!
Shapes of records. A shape declares the fields of a record type, in order, and says of
each whether it is public and whether reading and writing go through an accessor. A shape
names its accessors only; what they do is a matter of the `Record.Accessors` at hand.
-/

namespace Reshape

inductive Visibility where
  | shown
  | hidden
deriving DecidableEq

/-- How a getter reads. The standard accessors answer with the value of its field, with the
plain text of that, ASCII letters in upper case, or with the value paired with the name of its
type; any other way of reading goes by a label. -/
inductive Reading where
  | stored
  | upperCase
  | withType
  | custom (label : String)
deriving DecidableEq

/-- How a setter writes. The standard accessors put the value itself into its field, its plain
text without spaces at both ends, a list of the value alone, or nothing at all; any other way of
writing goes by a label. -/
inductive Storing where
  | plain
  | trimmed
  | wrapped
  | dropped
  | custom (label : String)
deriving DecidableEq

structure Getter where
  field : String
  reading : Reading
deriving DecidableEq

structure Setter where
  field : String
  storing : Storing
deriving DecidableEq

structure FieldSpec where
  visibility : Visibility
  getter : Option Getter := none
  setter : Option Setter := none
deriving DecidableEq

/-- What can be read under a declared name: the getter's answer, which also exists when
the field is not stored, or else the stored value of a public field. -/
def FieldSpec.readBy {α : Type} (spec : FieldSpec) (answer : Getter → α) (name : String)
    (stored : Entries α) : Option α :=
  match spec.getter with
  | some getter => some (answer getter)
  | none => if spec.visibility = .shown then stored.get? name else none

structure Shape where
  name : String
  fields : Entries FieldSpec := []
deriving DecidableEq

namespace Shape

def field? (shape : Shape) (name : String) : Option FieldSpec := shape.fields.get? name

/-- Declares a field anew: accessors of an earlier declaration are lost, its position stays. -/
def declare (shape : Shape) (name : String) (visibility : Visibility) : Shape :=
  { shape with fields := shape.fields.insert name { visibility } }

/-- The declaration of a field, which is hidden unless declared otherwise before. -/
def specOrHidden (shape : Shape) (name : String) : FieldSpec :=
  (shape.field? name).getD { visibility := .hidden }

def withGetter (shape : Shape) (name : String) (getter : Getter) : Shape :=
  let spec := { shape.specOrHidden name with getter := some getter }
  { shape with fields := shape.fields.insert name spec }

def withSetter (shape : Shape) (name : String) (setter : Setter) : Shape :=
  let spec := { shape.specOrHidden name with setter := some setter }
  { shape with fields := shape.fields.insert name spec }

def readableBy {α : Type} (shape : Shape) (answer : Getter → α) (stored : Entries α) : Entries α :=
  shape.fields.filterMap fun (name, spec) =>
    (spec.readBy answer name stored).map fun value => (name, value)

end Shape

end Reshape
