import Reshape.Command.Run

namespace Reshape.Command

def lookUp (path : String) : IO FileState := do
  try
    return .text (← IO.FS.readFile path)
  catch
    | .noFileOrDirectory .. => return .missing
    | _ => return .unreadable

def variableNames : List String :=
  ["SCHEMATOR_CONFIG", "SCHEMATOR_LOG_LEVEL", "SCHEMATOR_LOG_FORMAT", "RUST_LOG", "HOME",
    "XDG_CONFIG_HOME"]

def hostOf (arguments : List String) : IO Host := do
  let values ← variableNames.filterMapM fun name => do
    return (← IO.getEnv name).map (name, ·)
  let environment (name : String) := values.lookup name
  let bare : Host := { file := fun _ => .missing, input := "", environment }
  match Arguments.parse (environment "SCHEMATOR_CONFIG") arguments with
  | .error _ => return bare
  | .ok arguments =>
      let paths := arguments.config.toList ++ Settings.usualFiles bare ++ arguments.inputFiles
      let files ← paths.mapM fun path => return (path, ← lookUp path)
      let input ← if arguments.readsInput then (← IO.getStdin).readToEnd else pure ""
      return { bare with file := fun path => (files.lookup path).getD .missing, input }

def usage : String := "Usage: schemator [OPTIONS] <COMMAND>"

end Reshape.Command

open Reshape.Command in
def main (arguments : List String) : IO UInt32 := do
  match run (← hostOf arguments) arguments with
  | none =>
      IO.eprintln usage
      return 2
  | some outcome =>
      IO.print outcome.output
      for line in outcome.reports do IO.eprintln line
      return outcome.exitCode.toUInt32
