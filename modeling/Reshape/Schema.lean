import Reshape.Filter.Registry
import Reshape.Path.Syntax
/-!
Schemas: output paths in order, each with where its value comes from. A source is null
for the whole input, a path, or a list of steps; a step is a path or a call of a filter.
Checking a schema reports what can be seen to be wrong without an input.
-/

namespace Reshape

structure Schema where
  entries : Entries Value := []

inductive SchemaFault where
  | outputOperator (operator : Token)
  | unknownFilter (step : Nat) (name : String)
  | namelessCall (step : Nat)
  | stepType (step : Nat) (found : String)
  | sourceType (found : String)
deriving DecidableEq

def SchemaFault.message : SchemaFault → String
  | .outputOperator operator => "output path may not contain operator '" ++ operator.text ++ "'"
  | .unknownFilter step name => "step " ++ toString step ++ ": unknown filter '" ++ name ++ "'"
  | .namelessCall step => "step " ++ toString step ++ ": filter step must start with a filter name"
  | .stepType step found =>
      "step " ++ toString step ++ ": expected a path or a filter list, found " ++ found
  | .sourceType found => "source must be null, a path or a list of steps, found " ++ found

structure SchemaIssue where
  output : String
  fault : SchemaFault
deriving DecidableEq

def SchemaIssue.message (issue : SchemaIssue) : String := issue.fault.message

def SchemaIssue.text (issue : SchemaIssue) : String :=
  "'" ++ issue.output ++ "': " ++ issue.message

namespace Schema

def insert (schema : Schema) (output : String) (source : Value) : Schema :=
  { entries := schema.entries.insert output source }

def ofValue? : Value → Option Schema
  | .map entries => some { entries }
  | _ => none

def toValue (schema : Schema) : Value := .map schema.entries

/-- The first operator of an output path is reported. -/
def outputFaults (delimiter : Delimiter) (output : String) : List SchemaFault :=
  match (delimiter.split output).find? Token.isOperator with
  | some operator => [.outputOperator operator]
  | none => []

def stepFaults (filters : Registry) (position : Nat) : Value → List SchemaFault
  | .string _ => []
  | .list (.string name :: _) =>
      if filters.contains name then [] else [.unknownFilter position name]
  | .list _ => [.namelessCall position]
  | other => [.stepType position other.typeName]

def stepsFaults (filters : Registry) (position : Nat) : List Value → List SchemaFault
  | [] => []
  | step :: rest => stepFaults filters position step ++ stepsFaults filters (position + 1) rest

def sourceFaults (filters : Registry) : Value → List SchemaFault
  | .null | .string _ => []
  | .list steps => stepsFaults filters 0 steps
  | other => [.sourceType other.typeName]

/-- The issues of all entries, those of an output path before those of its source. -/
def check (schema : Schema) (filters : Registry) (delimiter : Delimiter) : List SchemaIssue :=
  schema.entries.flatMap fun (output, source) =>
    (outputFaults delimiter output ++ sourceFaults filters source).map fun fault =>
      { output, fault }

end Schema

end Reshape
