import Reshape.Command.Failure
import Reshape.Json.Reader
import Reshape.Schema
import Reshape.Text.Blank
import Reshape.Text.Split
import Reshape.Toml.Reader
import Reshape.Yaml.Reader
/-!
What surrounds a run of the command: files, standard input and environment variables; and
the documents and schemas that are read from there. The extension of a file tells its
format, and JSON is the format of everything else.
-/

namespace Reshape.Command

inductive FileState where
  | missing
  /-- Something that is there and holds no text, such as a folder. -/
  | unreadable
  | text (text : String)

structure Host where
  file : (path : String) → FileState
  input : String
  environment : (name : String) → Option String

/-- The last name in a path; there is none where it leads upwards or to the root. -/
def fileName? (path : String) : Option String :=
  let names := (Text.split "/" path).filter fun name => name != "" && name != "."
  match names.getLast? with
  | some ".." => none
  | last => last

/-- What follows the last point of a name, unless that point begins it. -/
def extension? (name : String) : Option String :=
  let parts := Text.split "." name
  match parts.reverse with
  | last :: before => if before.all (·.isEmpty) && before.length ≤ 1 then none else some last
  | [] => none

namespace Format

def ofPath (path : String) : Format :=
  match (fileName? path).bind extension? with
  | some "yaml" | some "yml" => .yaml
  | some "toml" => .toml
  | _ => .json

def read? : Format → (text : String) → Option Value
  | .json, text => Json.read? text
  | .yaml, text => Yaml.read? text
  | .toml, text => Toml.read? text

/-- The schema of a text. A YAML document with nothing in it is a schema without entries. -/
def readSchema? : Format → (text : String) → Option Schema
  | .yaml, text =>
      match Yaml.Node.read? text with
      | some (.scalar "" true) => some {}
      | some node => node.value?.bind Schema.ofValue?
      | none => none
  | format, text => (format.read? text).bind Schema.ofValue?

def readSetting? : Format → (text : String) → Option Setting
  | .json, text => (Json.Node.read? text).map Json.Node.setting
  | .yaml, text => (Yaml.Node.read? text).map Yaml.Node.setting
  | .toml, text => (Toml.read? text).map Setting.ofValue

/-- What a configuration may be like. In TOML null is a number that is not finite, which is
no missing text. -/
def settingRules : Format → SettingRules
  | .json =>
      { positional := true
        surplus := false
        blank := false
        nullable := true
        holdsChoice := fun
          | .scalar .null _ => true
          | _ => false }
  | .yaml =>
      { positional := false
        surplus := false
        blank := true
        nullable := true
        holdsChoice := fun _ => false }
  | .toml =>
      { positional := true
        surplus := true
        blank := false
        nullable := false
        holdsChoice := fun
          | .list [] | .map [] => true
          | _ => false }

end Format

inductive Source where
  | input
  | file (path : String)

namespace Source

/-- A missing path and a hyphen stand for standard input. -/
def ofPath? : Option String → Source
  | some path => if path == "-" then .input else .file path
  | none => .input

def shown : Source → String
  | .input => "<stdin>"
  | .file path => path

def format : Source → Format
  | .input => .json
  | .file path => .ofPath path

end Source

namespace Host

def configFolder? (host : Host) : Option String :=
  match (host.environment "XDG_CONFIG_HOME").filter (·.startsWith "/") with
  | some folder => some folder
  | none => (host.environment "HOME").map (· ++ "/.config")

def readFile (host : Host) (path : String) : Except Failure String :=
  match host.file path with
  | .missing => .error (.fileNotFound path)
  | .unreadable => .error .unreadable
  | .text text => .ok text

def readSource (host : Host) : Source → Except Failure String
  | .input => .ok host.input
  | .file path => host.readFile path

def readDocument (host : Host) (source : Source) : Except Failure Value := do
  match source.format.read? (← host.readSource source) with
  | some value => return value
  | none => throw (.invalidDocument source.format source.shown)

def readSchema (host : Host) (path : String) : Except Failure Schema := do
  let format := Format.ofPath path
  match format.readSchema? (← host.readFile path) with
  | some schema => return schema
  | none => throw (.invalidDocument format path)

end Host

/-- The lines of a text. A carriage return before a line feed does not belong to a line. -/
def linesOf (text : String) : List String :=
  let parts := Text.split "\n" text
  let parts := if parts.getLast? == some "" then parts.dropLast else parts
  parts.map fun line =>
    if line.endsWith "\r" then String.ofList line.toList.dropLast else line

/-- The JSON values of lines from some number on, blank lines left out. -/
def valuesOfLines (path : String) : (line : Nat) → List String → Except Failure (List Value)
  | _, [] => .ok []
  | line, text :: rest =>
      if text.toList.all Text.isBlank then valuesOfLines path (line + 1) rest
      else
        match Json.read? text with
        | none => .error (.invalidLine line path)
        | some value => (valuesOfLines path (line + 1) rest).map (value :: ·)

def Host.readLines (host : Host) (source : Source) : Except Failure (List Value) := do
  valuesOfLines source.shown 1 (linesOf (← host.readSource source))

end Reshape.Command
