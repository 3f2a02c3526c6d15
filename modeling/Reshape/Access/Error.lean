
namespace Reshape

inductive Operation where
  | get
  | set
  | delete
  | append
  | getOrCreate
deriving DecidableEq

def Operation.name : Operation → String
  | .get => "get"
  | .set => "set"
  | .delete => "delete"
  | .append => "append"
  | .getOrCreate => "get_or_create"

inductive Refusal where
  | notAnIndex
  | pastEnd (length : Nat)
  | undeclaredField
  | hiddenField
  | fixedField
deriving DecidableEq

def Refusal.message : Refusal → String
  | .notAnIndex => "list keys must be non-negative integers"
  | .pastEnd length => "index is past the end of a list of length " ++ toString length
  | .undeclaredField => "field is not declared"
  | .hiddenField => "field is private and has no setter"
  | .fixedField => "field cannot be removed"

inductive AccessError where
  | unsupported (found : String) (operation : Operation)
  | notWritable (key typeName : String) (refusal : Refusal)
deriving DecidableEq

def AccessError.message : AccessError → String
  | .unsupported found operation =>
      "Unsupported container type: cannot " ++ operation.name ++ " on " ++ found
  | .notWritable key typeName refusal =>
      "Not writable: '" ++ key ++ "' on " ++ typeName ++ " (" ++ refusal.message ++ ")"

end Reshape
