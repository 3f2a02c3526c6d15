import Reshape.Schema
import Reshape.Write
/-!
Conversion. Each source of a schema is looked up in the input, and the value is written
to its output path in a fresh map. A lookup runs its pipeline of paths and filters from
left to right; a filter may look up further values, one level of nesting deeper.
-/

namespace Reshape

variable [Record.Accessors]

structure Converter where
  filters : Registry
  delimiter : Delimiter := .dot
  strict : Bool := false

namespace Converter

variable (converter : Converter)

def rejectSource (source : Value) (strict : Bool) : Attempt Error Value :=
  if strict then throw (.unsupportedSource source.typeName) else pure .null

def select (source : Value) (path : String) (strict : Bool) : Attempt Error Value :=
  if path.isEmpty then pure source
  else if !source.isContainer then rejectSource source strict
  else
    match source.read converter.delimiter strict (.text path) with
    | .ok value => pure value
    | .error cause => throw (.cannotGet path source cause)

def malformed (fault : StepFault) (step : Value) (strict : Bool) : Attempt Error Value :=
  if strict then throw (.malformedStep fault step) else pure .null

/-- What becomes of a filter that failed. An unknown filter below it stays an error in
both modes; everything else is null in lenient mode. -/
def settle (name : String) (strict : Bool) (failure : FilterFailure) : Attempt Error Value :=
  match failure with
  | .lookup (.filterNotFound missing) => throw (.filterNotFound missing)
  | failure => if strict then throw (.filterFailed name failure.messages) else pure .null

def applyFilter (nested : Lookup) (current root : Value) (call : List Value) (strict : Bool) :
    Attempt Error Value :=
  match call with
  | .string name :: arguments =>
      match converter.filters.find? name with
      | none => throw (.filterNotFound name)
      | some filter =>
          let context := { source := current, root, strict, lookup := nested }
          ExceptT.mk ((filter context arguments).run.bind fun
            | .ok value => some (.ok value)
            | .error failure => (settle name strict failure).run)
  | call => malformed .namelessCall (.list call) strict

def runStep (nested : Lookup) (root : Value) (strict : Bool) (current step : Value) :
    Attempt Error Value :=
  match step with
  | .string path => converter.select current path strict
  | .list call => converter.applyFilter nested current root call strict
  | other => malformed (.neitherPathNorCall other.typeName) other strict

def evaluate (nested : Lookup) : Lookup := fun source key strict =>
  match key with
  | .null => pure source
  | .string path => converter.select source path strict
  | .list steps =>
      if source.isContainer then steps.foldlM (converter.runStep nested source strict) source
      else rejectSource source strict
  | other =>
      if !source.isContainer then rejectSource source strict
      else if strict then throw (.unsupportedKey other)
      else pure .null

/-- Lookups that nest at most `depth` deep; deeper ones get no answer. -/
def lookupWithin : (depth : Nat) → Lookup
  | 0 => fun _ _ _ => ExceptT.mk none
  | depth + 1 => converter.evaluate (lookupWithin depth)

/-- Writes the values of the entries one after the other. The entry of the empty output
path ends the conversion: its value is the result. -/
def convertEntries (lookup : Lookup) (source : Value) (strict : Bool) (output : Value) :
    List (String × Value) → Attempt Error Value
  | [] => pure output
  | (target, spec) :: rest => do
      let value ← lookup source spec strict
      if target.isEmpty then pure value
      else
        let written := output.writeSet converter.delimiter (.text target) value
        match written.failure with
        | some failure => throw (.path failure)
        | none => convertEntries lookup source strict written.root rest

def convertWithin (depth : Nat) (source : Value) (schema : Schema) (strict : Bool) :
    Attempt Error Value :=
  converter.convertEntries (converter.lookupWithin depth) source strict (.map []) schema.entries

def lookupDepth : Nat := 4096

def getValue (source key : Value) (strict : Bool) : Attempt Error Value :=
  converter.lookupWithin lookupDepth source key strict

def convert (source : Value) (schema : Schema) (strict : Bool) : Attempt Error Value :=
  converter.convertWithin lookupDepth source schema strict

def check (schema : Schema) : List SchemaIssue := schema.check converter.filters converter.delimiter

end Converter

end Reshape
