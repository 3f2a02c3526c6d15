import Reshape.Access.Container
/-!
Slots: a place inside a container through which it is read and written. The places of
lists and maps are changed where they are. A property of a record is a copy, which is
read through the getter and written back through the setter.
-/

namespace Reshape

variable [Record.Accessors]

inductive Slot where
  | entry (container : Value) (key : String)
  | property (record : Record) (name : String)

namespace Slot

def container : Slot → Value
  | .entry container _ => container
  | .property record _ => record.toValue

def at? (container : Value) (key : String) : Option Slot :=
  if container.has key then
    match container with
    | .record shape fields => some (.property { shape, fields } key)
    | other => some (.entry other key)
  else none

/-- The slot of a key, which is first written with a default if it cannot be read. -/
def obtain (container : Value) (key : String) (default : Value) : Except AccessError Slot :=
  match container with
  | .record shape fields =>
      if Record.has { shape, fields } key then .ok (.property { shape, fields } key)
      else (Record.set { shape, fields } key default).map (.property · key)
  | .list _ | .map _ =>
      if container.has key then .ok (.entry container key)
      else (container.set key default).map (.entry · key)
  | other => .error (.unsupported other.typeName .getOrCreate)

def get : Slot → Value
  | .entry container key => (container.get? key).getD .null
  | .property record name => (record.get? name).getD .null

def set (slot : Slot) (value : Value) : Except AccessError Value :=
  match slot with
  | .entry container key => container.set key value
  | .property record name => (record.set name value).map Record.toValue

end Slot

end Reshape
