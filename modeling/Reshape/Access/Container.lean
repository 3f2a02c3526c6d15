import Reshape.Path.Index
import Reshape.Record

namespace Reshape.Value

variable [Record.Accessors]

def get? (value : Value) (key : String) : Option Value :=
  match value with
  | .list items => (index? key).bind (items[·]?)
  | .map entries => Entries.get? key entries
  | .record shape fields => Record.get? { shape, fields } key
  | _ => none

def has (value : Value) (key : String) : Bool := (value.get? key).isSome

theorem has_record (record : Record) (key : String) : record.toValue.has key = record.has key :=
  (record.has_eq key).symm

def members? : Value → Option (List Value)
  | .list items => some items
  | .map entries => some (entries.map (·.2))
  | .record shape fields => some (Record.values { shape, fields })
  | _ => none

def isArrayAccessible : Value → Bool
  | .list _ | .map _ => true
  | _ => false

def setItem (items : List Value) (key : String) (value : Value) : Except AccessError (List Value) :=
  match index? key with
  | none => .error (.notWritable key "list" .notAnIndex)
  | some index =>
      if index < items.length then .ok (items.set index value)
      else if index = items.length then .ok (items ++ [value])
      else .error (.notWritable key "list" (.pastEnd items.length))

def set (container : Value) (key : String) (value : Value) : Except AccessError Value :=
  match container with
  | .list items => (setItem items key value).map .list
  | .map entries => .ok (.map (Entries.insert key value entries))
  | .record shape fields => (Record.set { shape, fields } key value).map Record.toValue
  | other => .error (.unsupported other.typeName .set)

/-- Removes a key. A key that cannot be read is left alone. -/
def delete (container : Value) (key : String) : Except AccessError Value :=
  match container with
  | .list items =>
      match index? key with
      | some index => .ok (.list (items.eraseIdx index))
      | none => .ok (.list items)
  | .map entries => .ok (.map (Entries.erase key entries))
  | .record shape fields =>
      if Record.has { shape, fields } key then
        (Record.remove { shape, fields } key).map Record.toValue
      else .ok (.record shape fields)
  | other => .error (.unsupported other.typeName .delete)

/-- The key under which a map takes a further member: the number after its largest index. Behind
the last number that a machine word holds comes zero again. -/
def nextKey (entries : List (String × Value)) : String :=
  match (entries.filterMap fun (key, _) => index? key).max? with
  | some largest => toString ((largest + 1) % UInt64.size)
  | none => "0"

def push (container : Value) (item : Value) : Except AccessError Value :=
  match container with
  | .list items => .ok (.list (items ++ [item]))
  | .map entries => .ok (.map (Entries.insert (nextKey entries) item entries))
  | other => .error (.unsupported other.typeName .append)

/-- A fresh container shaped for a key: a list when the key is an index, else a map. -/
def emptyFor (key : String) : Value :=
  if (index? key).isSome then .list [] else .map []

end Reshape.Value
