import Reshape.Value.Basic
import Reshape.Json.Compact
/-!
The view of a value: what a reader can see of it. A record is seen as the name of its
type and its readable fields, so nothing that a view holds depends on hidden data.
Equality and text are defined on views.
-/

namespace Reshape

def View.answer (reading : Reading) (stored : Option View) : View :=
  let view := stored.getD .null
  match reading with
  | .stored | .custom _ => view
  | .upperCase => .string (view.plain.map Char.toUpper)
  | .withType => .list [view, .string view.typeName]

namespace Record

/-- What a reader sees of a getter's answer, given the record and what he sees of the fields
that it stores. -/
class Display where
  shown : Getter → Record → Entries View → View

instance (priority := low) Display.standard : Display where
  shown getter _ stored := View.answer getter.reading (stored.get? getter.field)

end Record

namespace Value

variable [Record.Display]

mutual

def view : Value → View
  | .null => .null
  | .bool value => .bool value
  | .number value => .number value
  | .string value => .string value
  | .list items => .list (viewItems items)
  | .map entries => .map (viewEntries entries)
  | .record none fields => .record "dynamic" (viewEntries fields)
  | .record (some shape) fields =>
      .record shape.name (shape.readableBy
        (Record.Display.shown · ⟨some shape, fields⟩ (viewEntries fields)) (viewEntries fields))

def viewItems : List Value → List View
  | [] => []
  | value :: rest => value.view :: viewItems rest

def viewEntries : List (String × Value) → List (String × View)
  | [] => []
  | (name, value) :: rest => (name, value.view) :: viewEntries rest

end

/-- Values are the same when a reader cannot tell them apart; the order of a map's
entries does not count. -/
def same (left right : Value) : Bool := left.view.same right.view

def text (value : Value) : String := value.view.text

/-- The text of a value on its own: nothing for null, a string as it is, else its JSON text. -/
def plain (value : Value) : String := value.view.plain

end Value

end Reshape
