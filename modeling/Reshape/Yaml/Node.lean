import Reshape.Config.Setting
import Reshape.Yaml.Scalar

namespace Reshape.Yaml

inductive Node where
  | scalar (text : String) (plain : Bool)
  | list (items : List Node)
  | map (entries : List (String × Node))

namespace Node

instance : Inhabited Node := ⟨.list []⟩

def blank : Node := .scalar "" true

mutual

def depth : Node → Nat
  | .scalar _ _ => 0
  | .list items => depthOfItems items + 1
  | .map entries => depthOfEntries entries + 1

def depthOfItems : List Node → Nat
  | [] => 0
  | item :: rest => max item.depth (depthOfItems rest)

def depthOfEntries : List (String × Node) → Nat
  | [] => 0
  | (_, item) :: rest => max item.depth (depthOfEntries rest)

end

def scalarValue? (text : String) (plain : Bool) : Option Value :=
  if plain then plainValue? text else some (.string text)

mutual

/-- The value of a node. Of a repeated name the last value counts. -/
def value? : Node → Option Value
  | .scalar text plain => scalarValue? text plain
  | .list items => (itemValues? items).map .list
  | .map entries => (entryValues? entries).map fun pairs => .map (Entries.ofPairs pairs)

def itemValues? : List Node → Option (List Value)
  | [] => some []
  | item :: rest => do
      let value ← item.value?
      return value :: (← itemValues? rest)

def entryValues? : List (String × Node) → Option (List (String × Value))
  | [] => some []
  | (name, item) :: rest => do
      let value ← item.value?
      return (name, value) :: (← entryValues? rest)

end

mutual

/-- The setting of a node. Any scalar can stand for its text. -/
def setting : Node → Setting
  | .scalar text plain => .scalar ((scalarValue? text plain).getD (.string text)) (some text)
  | .list items => .list (itemSettings items)
  | .map entries => .map (entrySettings entries)

def itemSettings : List Node → List Setting
  | [] => []
  | item :: rest => item.setting :: itemSettings rest

def entrySettings : List (String × Node) → List (String × Setting)
  | [] => []
  | (name, item) :: rest => (name, item.setting) :: entrySettings rest

end

end Node

end Reshape.Yaml
