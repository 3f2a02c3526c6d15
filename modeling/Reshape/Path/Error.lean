import Reshape.Access.Error
import Reshape.Path.Token

namespace Reshape

inductive PathFault where
  | emptyDelimiter
  | segmentType (found : String)
  | pathType (found : String)
  | operatorInWrite (operator : Token)
  | rootDeletion
deriving DecidableEq

def PathFault.message : PathFault → String
  | .emptyDelimiter => "delimiter must not be empty"
  | .segmentType found => "path segment must be a string or number, found " ++ found
  | .pathType found => "path must be a string, number or list, found " ++ found
  | .operatorInWrite operator => "operator '" ++ operator.text ++ "' is not allowed in a write path"
  | .rootDeletion => "cannot delete the root container"

inductive PathError where
  | invalidPath (fault : PathFault) (path : String)
  | sourceIsScalar (found : String)
  | notExist (key travelled : String)
  | notArrayAccessible (travelled found : String)
  | notWritable (key travelled : String) (reason : AccessError)
deriving DecidableEq

def PathError.message : PathError → String
  | .invalidPath fault _ => "Invalid path: " ++ fault.message
  | .sourceIsScalar found => "Source is scalar: expected a container, found " ++ found
  | .notExist key travelled => "Key '" ++ key ++ "' does not exist at '" ++ travelled ++ "'"
  | .notArrayAccessible travelled found =>
      "Value at '" ++ travelled ++ "' is not array accessible (found " ++ found ++ ")"
  | .notWritable key travelled reason =>
      "Key '" ++ key ++ "' at '" ++ travelled ++ "' is not writable: " ++ reason.message

end Reshape
