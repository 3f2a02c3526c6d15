import Reshape.Command.Host
import Reshape.Command.Output
import Reshape.Config.Conversion

namespace Reshape.Command

structure OutputSettings where
  format : OutputFormat := .prettyJson
  color : Bool := true
  progress : Bool := true

structure LoggingSettings where
  level : Option String := none
  format : Option String := none

structure Settings where
  converter : ConversionConfig := {}
  output : OutputSettings := {}
  logging : LoggingSettings := {}

def OutputSettings.ofSetting? (rules : SettingRules) (setting : Setting) :
    Option OutputSettings := do
  let fields ← setting.fields? rules ["format", "color", "progress"]
  let format ← fieldOr fields "format" .prettyJson (Setting.choice? rules OutputFormat.ofName?)
  let color ← fieldOr fields "color" true Setting.bool?
  let progress ← fieldOr fields "progress" true Setting.bool?
  return { format, color, progress }

def LoggingSettings.ofSetting? (rules : SettingRules) (setting : Setting) :
    Option LoggingSettings := do
  let fields ← setting.fields? rules ["level", "format"]
  let level ← fieldOr fields "level" none (Setting.optionalText? rules)
  let format ← fieldOr fields "format" none (Setting.optionalText? rules)
  return { level, format }

namespace Settings

def ofSetting? (rules : SettingRules) (setting : Setting) : Option Settings := do
  let fields ← setting.fields? rules ["converter", "output", "logging"]
  let converter ← fieldOr fields "converter" {} (ConversionConfig.ofSetting? rules)
  let output ← fieldOr fields "output" {} (OutputSettings.ofSetting? rules)
  let logging ← fieldOr fields "logging" {} (LoggingSettings.ofSetting? rules)
  return { converter, output, logging }

def ofText? (format : Format) (text : String) : Option Settings :=
  (format.readSetting? text).bind (ofSetting? format.settingRules)

def ofFile (host : Host) (path : String) : Option (Except ConfigFault Settings) :=
  let format := Format.ofPath path
  match host.file path with
  | .missing => none
  | .unreadable => some (.error .unreadable)
  | .text text =>
      match ofText? format text with
      | some settings => some (.ok settings)
      | none => some (.error (.invalid format))

def usualFiles (host : Host) : List String :=
  let files := [".schemator.yaml", ".schemator.yml", ".schemator.json", ".schemator.toml"]
  match host.configFolder? with
  | some folder =>
      files ++ ["yaml", "json", "toml"].map fun extension =>
        folder ++ "/schemator/config." ++ extension
  | none => files

/-- The settings of the first file that can be read, with a warning for each one before it
that is there and cannot. -/
def ofUsualFiles (host : Host) : List String → List String × Settings
  | [] => ([], {})
  | path :: rest =>
      match ofFile host path with
      | none => ofUsualFiles host rest
      | some (.ok settings) => ([], settings)
      | some (.error _) =>
          let (warnings, settings) := ofUsualFiles host rest
          (("Warning: Failed to load config from \"" ++ path ++ "\"") :: warnings, settings)

def load (host : Host) (named : Option String) : Except Failure (List String × Settings) :=
  match named with
  | none => .ok (ofUsualFiles host (usualFiles host))
  | some path =>
      match ofFile host path with
      | none => .error (.fileNotFound path)
      | some (.ok settings) => .ok ([], settings)
      | some (.error fault) => .error (.configuration path fault)

end Settings

end Reshape.Command
