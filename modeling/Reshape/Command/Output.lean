import Reshape.Json.Pretty
import Reshape.Yaml.Printer

namespace Reshape.Command

inductive OutputFormat where
  | json
  | prettyJson
  | yaml
deriving DecidableEq

namespace OutputFormat

def ofName? : (name : String) → Option OutputFormat
  | "json" => some .json
  | "json-pretty" => some .prettyJson
  | "yaml" => some .yaml
  | _ => none

def document : OutputFormat → View → String
  | .json, view => view.text
  | .prettyJson, view => view.prettyText
  | .yaml, view => view.yamlText

def record : OutputFormat → View → String
  | .json, view | .prettyJson, view => view.text
  | .yaml, view => "---\n" ++ view.yamlText

end OutputFormat

def trimLineFeeds (text : String) : String :=
  String.ofList (text.toList.reverse.dropWhile (· == '\n')).reverse

/-- A text as it is printed: it ends with a single line feed. -/
def printed (text : String) : String := trimLineFeeds text ++ "\n"

end Reshape.Command
