import Reshape.Path.Error
import Reshape.Value.View

namespace Reshape

inductive ErrorKind where
  | invalidPath
  | sourceIsScalar
  | pathNotExist
  | pathNotArrayAccessible
  | pathNotWritable
  | unsupportedContainerType
  | notWritable
  | unsupportedSourceType
  | unsupportedKeyType
  | unsupportedFilterConfigType
  | filterNotFound
  | filterError
  | cannotGetValue
deriving DecidableEq

def ErrorKind.name : ErrorKind → String
  | .invalidPath => "InvalidPath"
  | .sourceIsScalar => "SourceIsScalar"
  | .pathNotExist => "PathNotExist"
  | .pathNotArrayAccessible => "PathNotArrayAccessible"
  | .pathNotWritable => "PathNotWritable"
  | .unsupportedContainerType => "UnsupportedContainerType"
  | .notWritable => "NotWritable"
  | .unsupportedSourceType => "UnsupportedSourceType"
  | .unsupportedKeyType => "UnsupportedKeyType"
  | .unsupportedFilterConfigType => "UnsupportedFilterConfigType"
  | .filterNotFound => "FilterNotFound"
  | .filterError => "FilterError"
  | .cannotGetValue => "CannotGetValue"

def AccessError.kind : AccessError → ErrorKind
  | .unsupported _ _ => .unsupportedContainerType
  | .notWritable _ _ _ => .notWritable

def PathError.kind : PathError → ErrorKind
  | .invalidPath _ _ => .invalidPath
  | .sourceIsScalar _ => .sourceIsScalar
  | .notExist _ _ => .pathNotExist
  | .notArrayAccessible _ _ => .pathNotArrayAccessible
  | .notWritable _ _ _ => .pathNotWritable

inductive StepFault where
  | neitherPathNorCall (found : String)
  | namelessCall
deriving DecidableEq

def StepFault.message : StepFault → String
  | .neitherPathNorCall found => "filter step must be a path or a list, found " ++ found
  | .namelessCall => "filter step must start with a filter name"

inductive Error where
  | access (error : AccessError)
  | path (error : PathError)
  | unsupportedSource (found : String)
  | unsupportedKey (key : Value)
  | malformedStep (fault : StepFault) (step : Value)
  | filterNotFound (name : String)
  /-- A failed filter, with the messages of what went wrong in it, outermost first. -/
  | filterFailed (name : String) (messages : List String)
  | cannotGet (key : String) (source : Value) (cause : PathError)

namespace Error

def kind : Error → ErrorKind
  | .access error => error.kind
  | .path error => error.kind
  | .unsupportedSource _ => .unsupportedSourceType
  | .unsupportedKey _ => .unsupportedKeyType
  | .malformedStep _ _ => .unsupportedFilterConfigType
  | .filterNotFound _ => .filterNotFound
  | .filterFailed _ _ => .filterError
  | .cannotGet _ _ _ => .cannotGetValue

variable [Record.Display]

def message : Error → String
  | .access error => error.message
  | .path error => error.message
  | .unsupportedSource found => "Unsupported source type: " ++ found
  | .unsupportedKey key => "Unsupported key type: " ++ key.typeName ++ " (" ++ key.text ++ ")"
  | .malformedStep fault step =>
      "Unsupported filter config: " ++ fault.message ++ " (" ++ step.text ++ ")"
  | .filterNotFound name => "Filter '" ++ name ++ "' not found"
  | .filterFailed name messages => "Filter '" ++ name ++ "' failed: " ++ ": ".intercalate messages
  | .cannotGet key _ cause => "Cannot get value by key '" ++ key ++ "': " ++ cause.message

def messages (error : Error) : List String :=
  match error with
  | .filterFailed _ inner => error.message :: inner
  | .cannotGet _ _ cause => [error.message, cause.message]
  | _ => [error.message]

def pathError? : Error → Option PathError
  | .path error => some error
  | .cannotGet _ _ cause => some cause
  | _ => none

def suppressible (error : Error) : Bool := error.kind != .filterNotFound

end Error

end Reshape
