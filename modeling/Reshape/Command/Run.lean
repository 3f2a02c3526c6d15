import Reshape.Command.Logging
import Reshape.Filter.Standard
/-!
Running the command. A run prints results and reports on what it did; both are kept apart,
and what has been printed before a failure stays.
-/

namespace Reshape.Command

variable [Record.Accessors]

/-- What a run prints, the lines that it reports, and the failure that ended it, if one did. -/
structure Run where
  output : String := ""
  reports : List String := []
  failure : Option Failure := none

namespace Run

def failed (failure : Failure) : Run := { failure := some failure }

def after (reports : List String) (run : Run) : Run :=
  { run with reports := reports ++ run.reports }

def ofExcept {α : Type} (result : Except Failure α) (next : α → Run) : Run :=
  match result with
  | .ok value => next value
  | .error failure => failed failure

end Run

/-- What the commands share: their settings, and whether reports of success are wanted. -/
structure Session where
  settings : Settings
  quiet : Bool

namespace Session

def strict (session : Session) : Bool := session.settings.converter.strict

def format (session : Session) : OutputFormat := session.settings.output.format

def document (session : Session) (value : Value) : String :=
  printed (session.format.document value.view)

def record (session : Session) (value : Value) : String :=
  printed (session.format.record value.view)

def reports (session : Session) (lines : List String) : List String :=
  if session.quiet then [] else lines

def converter (session : Session) : Except Failure Converter :=
  let standard : Converter := { filters := Registry.standard }
  (standard.withConfig session.settings.converter).mapError .conversion

end Session

def resultOf {α : Type} (attempt : Attempt Error α) : Except Failure α :=
  match attempt.run with
  | some (.ok value) => .ok value
  | some (.error error) => .error (.conversion error)
  | none => .error .endless

def Failure.atItem (position : Nat) : Failure → Failure
  | .conversion error => .item position error
  | failure => failure

/-- The converted items up to the first that fails, from a position on. -/
def convertItems (convert : Value → Except Failure Value) : (position : Nat) → List Value →
    List Value × Option Failure
  | _, [] => ([], none)
  | position, item :: rest =>
      match convert item with
      | .error failure => ([], some (failure.atItem position))
      | .ok value =>
          let (values, failure) := convertItems convert (position + 1) rest
          (value :: values, failure)

def convertedReport (count : Nat) : String := "OK: Converted " ++ toString count ++ " item(s)"

def runLines (session : Session) (convert : Value → Except Failure Value) (items : List Value) :
    Run :=
  let (values, failure) := convertItems convert 0 items
  { output := String.join (values.map session.record)
    reports := if failure.isNone then session.reports [convertedReport items.length] else []
    failure }

def runEach (session : Session) (convert : Value → Except Failure Value) (items : List Value) :
    Run :=
  match convertItems convert 0 items with
  | (_, some failure) => .failed failure
  | (values, none) =>
      { output := session.document (.list values)
        reports := session.reports [convertedReport items.length] }

def runSingle (session : Session) (convert : Value → Except Failure Value) (source : Value) : Run :=
  .ofExcept (convert source) fun value => { output := session.document value }

def runMode (host : Host) (session : Session) (convert : Value → Except Failure Value)
    (source : Source) : Mode → Run
  | .lines => .ofExcept (host.readLines source) (runLines session convert)
  | .single => .ofExcept (host.readDocument source) (runSingle session convert)
  | .each => .ofExcept (host.readDocument source) fun
      | .list items => runEach session convert items
      | other => .failed (.eachNeedsList source.shown other.typeName)

def runConvert (host : Host) (session : Session) (schemaPath : String) (input : Option String)
    (mode : Mode) (strict : Bool) : Run :=
  .ofExcept (host.readSchema schemaPath) fun schema =>
    .ofExcept session.converter fun converter =>
      let warnings := (converter.check schema).map fun issue =>
        "WARNING: Schema issue " ++ issue.text
      let convert (source : Value) : Except Failure Value :=
        resultOf (converter.convert source schema (strict || session.strict))
      (runMode host session convert (.ofPath? input) mode).after (session.reports warnings)

def readDefault : (default : Option String) → Except Failure (Option Value)
  | none => .ok none
  | some text =>
      match Json.read? text with
      | some value => .ok (some value)
      | none => .error .defaultNotJson

/-- The value at a path. One that is missing or null gives way to a default. -/
def valueAt (session : Session) (root : Value) (path : String) (strict : Bool)
    (default : Option Value) : Except PathError Value := do
  let delimiter ← Delimiter.ofText session.settings.converter.delimiter
  root.checkRoot
  match default with
  | some default => root.readOr delimiter default (.text path)
  | none => root.read delimiter (strict || session.strict) (.text path)

def runGet (host : Host) (session : Session) (path : String) (input : Option String) (strict : Bool)
    (default : Option String) : Run :=
  .ofExcept (readDefault default) fun default =>
    .ofExcept (host.readDocument (.ofPath? input)) fun root =>
      match valueAt session root path strict default with
      | .ok value => { output := session.document value }
      | .error error => .failed (.conversion (.path error))

def checkResult (path : String) (entries : Nat) (issues : List SchemaIssue) : Value :=
  .map [("schema", .string path), ("entries", .ofInt entries), ("valid", .bool issues.isEmpty),
    ("issues", .list (issues.map fun issue =>
      .map [("output", .string issue.output), ("message", .string issue.message)]))]

def runCheck (host : Host) (session : Session) (path : String) : Run :=
  .ofExcept (host.readSchema path) fun schema =>
    .ofExcept session.converter fun converter =>
      let issues := converter.check schema
      let count := schema.entries.length
      let output := session.document (checkResult path count issues)
      if issues.isEmpty then
        { output
          reports := session.reports ["OK: Schema is valid (" ++ toString count ++ " entries)"] }
      else
        { output
          reports := issues.map fun issue => "ERROR: " ++ issue.text
          failure := some (.schemaIssues issues.length) }

/-- Scripts that complete command lines are not provided. -/
def runTask (host : Host) (session : Session) : Task → Run
  | .convert schema input mode strict => runConvert host session schema input mode strict
  | .get path input strict default => runGet host session path input strict default
  | .check schema => runCheck host session schema
  | .completions _ => {}

def Settings.override (settings : Settings) (arguments : Arguments) : Settings :=
  { settings with
    converter :=
      { settings.converter with delimiter := arguments.delimiter.getD settings.converter.delimiter }
    output :=
      { settings.output with
        format := arguments.output.getD settings.output.format
        color := settings.output.color && !arguments.noColor } }

def runArguments (host : Host) (arguments : Arguments) : Run :=
  .ofExcept (Settings.load host arguments.config) fun (warnings, settings) =>
    let settings := settings.override arguments
    let session : Session := { settings, quiet := arguments.quiet }
    (runTask host session arguments.task).after
      (warnings ++ loggingWarnings host arguments settings.logging)

/-- What a command line comes to: the exit code, what is printed, and the lines reported. -/
structure Outcome where
  exitCode : Nat
  output : String := ""
  reports : List String := []

def Run.outcome (run : Run) : Outcome :=
  match run.failure with
  | none => { exitCode := 0, output := run.output, reports := run.reports }
  | some failure =>
      { exitCode := failure.exitCode
        output := run.output
        reports := run.reports ++ failure.lines }

def versionText (verb : Option Verb) : String :=
  match verb with
  | some verb => "schemator-" ++ verb.name ++ " 0.1.0\n"
  | none => "schemator 0.1.0\n"

/-- The outcome of a command line, or none if it is rejected. -/
def run (host : Host) (arguments : List String) : Option Outcome :=
  match Arguments.parse (host.environment "SCHEMATOR_CONFIG") arguments with
  | .ok arguments => some (runArguments host arguments).outcome
  | .error .rejected => none
  | .error .help => some { exitCode := 0 }
  | .error (.version verb) => some { exitCode := 0, output := versionText verb }

end Reshape.Command
