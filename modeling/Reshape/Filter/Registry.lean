import Reshape.Filter.Basic

namespace Reshape

structure Registry where
  filters : List (String × Filter) := []

namespace Registry

def place (name : String) (filter : Filter) : List (String × Filter) → List (String × Filter)
  | [] => [(name, filter)]
  | (found, old) :: rest =>
      if name < found then (name, filter) :: (found, old) :: rest
      else if name = found then (name, filter) :: rest
      else (found, old) :: place name filter rest

def register (registry : Registry) (name : String) (filter : Filter) : Registry :=
  { filters := place name filter registry.filters }

def find? (registry : Registry) (name : String) : Option Filter :=
  Entries.get? name registry.filters

def contains (registry : Registry) (name : String) : Bool := Entries.has name registry.filters

def names (registry : Registry) : List String := registry.filters.map (·.1)

end Registry

end Reshape
