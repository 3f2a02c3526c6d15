import Reshape.Path.Error
import Reshape.Text.Split
import Reshape.Value.View

namespace Reshape

/-- The delimiter that paths are written with, which is not empty. -/
structure Delimiter where
  text : String
  nonempty : text ≠ "" := by decide
deriving DecidableEq

namespace Delimiter

def dot : Delimiter := { text := "." }

instance : Inhabited Delimiter := ⟨dot⟩

def ofText (text : String) : Except PathError Delimiter :=
  if nonempty : text = "" then .error (.invalidPath .emptyDelimiter "")
  else .ok { text, nonempty }

def split (delimiter : Delimiter) (path : String) : List Token :=
  if path == "" then [] else (Text.split delimiter.text path).map Token.ofSegment

def join (delimiter : Delimiter) (tokens : List Token) : String :=
  Text.join delimiter.text (tokens.map Token.text)

def joinKeys (delimiter : Delimiter) (keys : List String) : String :=
  Text.join delimiter.text keys

end Delimiter

inductive PathForm where
  | text (path : String)
  | key (name : String)
  | segments (texts : List String)
  | tokens (tokens : List Token)
  | value (value : Value)

namespace PathForm

variable [Record.Display]

/-- The tokens of a path held in a value: null is the empty path, a string is split, a
number is one key, and a list gives its segments. -/
def ofValue (delimiter : Delimiter) (value : Value) : Except PathError (List Token) :=
  match value with
  | .null => .ok []
  | .string path => .ok (delimiter.split path)
  | .number number => .ok [.key number.text]
  | .list items => items.mapM fun
      | .string segment => .ok (Token.ofSegment segment)
      | .number number => .ok (.key number.text)
      | other => .error (.invalidPath (.segmentType other.typeName) value.text)
  | other => .error (.invalidPath (.pathType other.typeName) other.text)

def parse (delimiter : Delimiter) : PathForm → Except PathError (List Token)
  | .text path => .ok (delimiter.split path)
  | .key name => .ok [.key name]
  | .segments texts => .ok (texts.map Token.ofSegment)
  | .tokens given => .ok given
  | .value given => ofValue delimiter given

end PathForm

end Reshape
