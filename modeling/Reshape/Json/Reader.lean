import Reshape.Json.Node
import Reshape.Json.Token
/-!
Reading JSON text. The tokens drive a small machine: it holds the containers that are
still open, innermost first, and what may come next.
-/

namespace Reshape.Json

/-- A container that is still open, its items or entries in reverse. -/
inductive Frame where
  | list (items : List Node)
  | map (entries : List (String × Node))
  | entry (entries : List (String × Node)) (name : String)

inductive Expected where
  | value
  | itemOrEnd
  | nameOrEnd
  | name
  | colon
  | separator
  | nothing (node : Node)

structure Reading where
  expected : Expected
  opened : List Frame

namespace Reading

def start : Reading := { expected := .value, opened := [] }

/-- Hands a finished node to the innermost open container. -/
def complete (node : Node) : List Frame → Reading
  | [] => { expected := .nothing node, opened := [] }
  | .list items :: outer => { expected := .separator, opened := .list (node :: items) :: outer }
  | .entry entries name :: outer =>
      { expected := .separator, opened := .map ((name, node) :: entries) :: outer }
  | .map entries :: outer => { expected := .separator, opened := .map entries :: outer }

def enter (limit : Nat) (frame : Frame) (expected : Expected) (opened : List Frame) :
    Option Reading :=
  if opened.length < limit then some { expected, opened := frame :: opened } else none

def startValue (limit : Nat) (token : Token) (opened : List Frame) : Option Reading :=
  match token with
  | .null => some (complete .null opened)
  | .bool value => some (complete (.bool value) opened)
  | .string text => some (complete (.string text) opened)
  | .number value => some (complete (.number value) opened)
  | .openList => enter limit (.list []) .itemOrEnd opened
  | .openMap => enter limit (.map []) .nameOrEnd opened
  | _ => none

def startName (token : Token) (opened : List Frame) : Option Reading :=
  match token, opened with
  | .string name, .map entries :: outer =>
      some { expected := .colon, opened := .entry entries name :: outer }
  | _, _ => none

def step (limit : Nat) (reading : Reading) (token : Token) : Option Reading :=
  match reading.expected, token, reading.opened with
  | .value, token, opened => startValue limit token opened
  | .itemOrEnd, .closeList, .list items :: outer => some (complete (.list items.reverse) outer)
  | .itemOrEnd, token, opened => startValue limit token opened
  | .nameOrEnd, .closeMap, .map entries :: outer => some (complete (.map entries.reverse) outer)
  | .nameOrEnd, token, opened => startName token opened
  | .name, token, opened => startName token opened
  | .colon, .colon, opened => some { expected := .value, opened }
  | .separator, .comma, .list items :: outer =>
      some { expected := .value, opened := .list items :: outer }
  | .separator, .comma, .map entries :: outer =>
      some { expected := .name, opened := .map entries :: outer }
  | .separator, .closeList, .list items :: outer => some (complete (.list items.reverse) outer)
  | .separator, .closeMap, .map entries :: outer => some (complete (.map entries.reverse) outer)
  | _, _, _ => none

end Reading

/-- The node that the tokens spell, with containers nested at most `limit` deep. -/
def ofTokens? (limit : Nat) (tokens : List Token) : Option Node := do
  let reading ← tokens.foldlM (Reading.step limit) Reading.start
  match reading.expected with
  | .nothing node => some node
  | _ => none

def Node.readWithin? (limit : Nat) (text : String) : Option Node := do
  ofTokens? limit (← Token.scan? text.toList)

def nestingLimit : Nat := 127

def Node.read? (text : String) : Option Node := Node.readWithin? nestingLimit text

def read? (text : String) : Option Value := (Node.read? text).map Node.value

end Reshape.Json
