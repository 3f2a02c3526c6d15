import Reshape.Number
import Reshape.Entries

namespace Reshape

inductive View where
  | null
  | bool (value : Bool)
  | number (value : Number)
  | string (value : String)
  | list (items : List View)
  | map (entries : List (String × View))
  | record (typeName : String) (entries : List (String × View))

namespace View

instance : Inhabited View := ⟨.null⟩

def typeName : View → String
  | .null => "null"
  | .bool _ => "bool"
  | .number _ => "number"
  | .string _ => "string"
  | .list _ => "list"
  | .map _ => "map"
  | .record _ _ => "object"

mutual

/-- Maps are the same when they hold the same under every name, in any order; records
moreover need the same type name. -/
def same : View → View → Bool
  | .null, .null => true
  | .bool left, .bool right => left == right
  | .number left, .number right => left.same right
  | .string left, .string right => left == right
  | .list left, .list right => sameItems left right
  | .map left, .map right => left.length == right.length && sameEntries left right
  | .record leftName left, .record rightName right =>
      leftName == rightName && left.length == right.length && sameEntries left right
  | _, _ => false

def sameItems : List View → List View → Bool
  | [], [] => true
  | left :: lefts, right :: rights => left.same right && sameItems lefts rights
  | _, _ => false

def sameEntries : List (String × View) → List (String × View) → Bool
  | [], _ => true
  | (name, left) :: lefts, rights =>
      (match Entries.get? name rights with
        | some right => left.same right
        | none => false) && sameEntries lefts rights

end

end View

end Reshape
