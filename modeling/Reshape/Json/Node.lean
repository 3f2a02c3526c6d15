import Reshape.Config.Setting

namespace Reshape.Json

inductive Node where
  | null
  | bool (value : Bool)
  | number (value : Number)
  | string (text : String)
  | list (items : List Node)
  | map (entries : List (String × Node))

namespace Node

mutual

/-- The value of a node. Of a repeated name the last value counts, at the first position. -/
def value : Node → Value
  | .null => .null
  | .bool value => .bool value
  | .number value => .number value
  | .string text => .string text
  | .list items => .list (itemValues items)
  | .map entries => .map (Entries.ofPairs (entryValues entries))

def itemValues : List Node → List Value
  | [] => []
  | item :: rest => item.value :: itemValues rest

def entryValues : List (String × Node) → List (String × Value)
  | [] => []
  | (name, item) :: rest => (name, item.value) :: entryValues rest

end

mutual

def setting : Node → Setting
  | .null => .scalar .null none
  | .bool value => .scalar (.bool value) none
  | .number value => .scalar (.number value) none
  | .string text => .scalar (.string text) (some text)
  | .list items => .list (itemSettings items)
  | .map entries => .map (entrySettings entries)

def itemSettings : List Node → List Setting
  | [] => []
  | item :: rest => item.setting :: itemSettings rest

def entrySettings : List (String × Node) → List (String × Setting)
  | [] => []
  | (name, item) :: rest => (name, item.setting) :: entrySettings rest

end

end Node

end Reshape.Json
