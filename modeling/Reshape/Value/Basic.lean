import Reshape.Number
import Reshape.Shape

namespace Reshape

inductive Value where
  | null
  | bool (value : Bool)
  | number (value : Number)
  | string (value : String)
  | list (items : List Value)
  | map (entries : List (String × Value))
  | record (shape : Option Shape) (fields : List (String × Value))

namespace Value

instance : Inhabited Value := ⟨.null⟩

def typeName : Value → String
  | .null => "null"
  | .bool _ => "bool"
  | .number _ => "number"
  | .string _ => "string"
  | .list _ => "list"
  | .map _ => "map"
  | .record _ _ => "object"

def isNull : Value → Bool
  | .null => true
  | _ => false

def isContainer : Value → Bool
  | .list _ | .map _ | .record _ _ => true
  | _ => false

/-- Null is neither a scalar nor a container. -/
def isScalar (value : Value) : Bool := !value.isNull && !value.isContainer

def ofNumber? (number : Option Number) : Value :=
  match number with
  | some number => .number number
  | none => .null

/-- The number an integer denotes; null only beyond the range of binary64. -/
def ofInt (value : Int) : Value := ofNumber? (Number.ofInt? value)

/-- The number a float denotes; null for infinities and for what is not a number. -/
def ofFloat (value : Float) : Value := ofNumber? ((Binary64.ofFloat? value).map .float)

mutual

/-- No map and no record, at any depth, names two of its entries alike. -/
def WellFormed : Value → Prop
  | .list items => AllWellFormed items
  | .map entries => Entries.Distinct entries ∧ EntriesWellFormed entries
  | .record shape fields =>
      (∀ declared, shape = some declared → declared.fields.Distinct) ∧
        Entries.Distinct fields ∧ EntriesWellFormed fields
  | _ => True

def AllWellFormed : List Value → Prop
  | [] => True
  | value :: rest => value.WellFormed ∧ AllWellFormed rest

def EntriesWellFormed : List (String × Value) → Prop
  | [] => True
  | (_, value) :: rest => value.WellFormed ∧ EntriesWellFormed rest

end

end Value

structure Record where
  shape : Option Shape
  fields : Entries Value

end Reshape
