import Reshape.Command.Arguments
import Reshape.Command.Settings

namespace Reshape.Command

/-- Levels by name, or by number from the one that logs nothing to the one that logs all. -/
def logLevels : List String :=
  ["trace", "debug", "info", "warn", "error", "off", "0", "1", "2", "3", "4", "5"]

def isLogLevel (text : String) : Bool :=
  logLevels.contains (String.ofList (text.toList.map Char.toLower))

def isTargetPart (character : Char) : Bool :=
  character.isAlphanum || character == '_' || character == ':' || character == '-'

/-- Whether the part of the program that a directive is for is well written: a name, a span
in brackets, or both. -/
def isTarget (text : List Char) : Bool :=
  match text.dropWhile isTargetPart with
  | [] => !text.isEmpty
  | '[' :: rest => rest.getLast? == some ']' && !rest.dropLast.contains ']'
  | _ => false

def isDirective (text : String) : Bool :=
  isLogLevel text ||
    match Text.split "=" text with
    | [target] => isTarget target.toList
    | [target, level] => isTarget target.toList && (level == "" || isLogLevel level)
    | _ => false

def isLogFilter (text : String) : Bool :=
  ((Text.split "," text).filter (· != "")).all isDirective

def isLogFormat (text : String) : Bool :=
  ["compact", "full", "json"].contains (String.ofList (text.toList.map Char.toLower))

def wantedLevel (host : Host) (arguments : Arguments) (settings : LoggingSettings) : String :=
  if arguments.quiet then "error"
  else
    match host.environment "SCHEMATOR_LOG_LEVEL", arguments.verbosity with
    | some level, _ => level
    | none, 0 => settings.level.getD "warn"
    | none, 1 => "info"
    | none, 2 => "debug"
    | none, _ => "trace"

/-- The warnings about levels and formats. A filter for all programs comes before the level. -/
def loggingWarnings (host : Host) (arguments : Arguments) (settings : LoggingSettings) :
    List String :=
  let level := wantedLevel host arguments settings
  let formatWarnings :=
    match host.environment "SCHEMATOR_LOG_FORMAT" with
    | some format =>
        if isLogFormat format then []
        else ["Warning: Invalid log format: " ++ format ++ ", using default"]
    | none => []
  let filtered := (host.environment "RUST_LOG").any isLogFilter
  formatWarnings ++
    if filtered || isLogFilter level then []
    else ["Failed to initialize logging: Configuration error: Invalid log level '" ++ level ++ "'"]

end Reshape.Command
