import Reshape.Error

namespace Reshape.Command

inductive Format where
  | json
  | yaml
  | toml
deriving DecidableEq

def Format.name : Format → String
  | .json => "JSON"
  | .yaml => "YAML"
  | .toml => "TOML"

inductive ConfigFault where
  | unreadable
  | invalid (format : Format)
deriving DecidableEq

def ConfigFault.message : ConfigFault → String
  | .unreadable => "IO error"
  | .invalid format => format.name ++ " error"

inductive Failure where
  /-- The path leads to something other than a file with text. -/
  | unreadable
  | conversion (error : Error)
  | fileNotFound (path : String)
  | invalidDocument (format : Format) (path : String)
  | invalidLine (line : Nat) (path : String)
  | configuration (path : String) (fault : ConfigFault)
  | eachNeedsList (path found : String)
  | defaultNotJson
  | schemaIssues (count : Nat)
  | item (position : Nat) (error : Error)
  /-- Lookups that nest without end. -/
  | endless

namespace Failure

variable [Record.Display]

def message : Failure → String
  | .unreadable => "IO error"
  | .conversion error => error.message
  | .fileNotFound path => "File not found: " ++ path
  | .invalidDocument format path => "Invalid " ++ format.name ++ " in " ++ path
  | .invalidLine line path => "Invalid JSON on line " ++ toString line ++ " in " ++ path
  | .configuration path fault => "Configuration error: " ++ path ++ ": " ++ fault.message
  | .eachNeedsList path found =>
      "Invalid arguments: --each expects a list at the top of " ++ path ++ ", found " ++ found
  | .defaultNotJson => "Invalid arguments: --default is not valid JSON"
  | .schemaIssues count => "Schema check failed with " ++ toString count ++ " issue(s)"
  | .item position error => "Item " ++ toString position ++ ": " ++ error.message
  | .endless => "Lookups nest without end"

def exitCode : Failure → Nat
  | .unreadable => 1
  | .conversion _ => 2
  | .fileNotFound _ => 3
  | .invalidDocument _ _ | .invalidLine _ _ => 4
  | .configuration _ _ => 5
  | .eachNeedsList _ _ | .defaultNotJson => 6
  | .schemaIssues _ => 7
  | .item _ _ => 8
  | .endless => 134

/-- What stands before the message; errors of a conversion add their kind. -/
def label : Failure → String
  | .conversion error | .item _ error => "error[" ++ error.kind.name ++ "]:"
  | _ => "error:"

def isUsage : Failure → Bool
  | .eachNeedsList _ _ | .defaultNotJson => true
  | _ => false

def lines (failure : Failure) : List String :=
  (failure.label ++ " " ++ failure.message) ::
    if failure.isUsage then ["", "For more information, try '--help'"] else []

end Failure

end Reshape.Command
