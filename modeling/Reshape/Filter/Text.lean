import Reshape.Filter.Basic
import Reshape.Text.Split

namespace Reshape.Filter

/-- The plain texts of the elements, none of which may be a container. -/
def plainTexts [Record.Display] : List Value → Except FilterFault (List String)
  | [] => .ok []
  | item :: rest =>
      if item.isContainer then .error (.nestedElement item.typeName)
      else (plainTexts rest).map (item.plain :: ·)

def join [Record.Display] : Filter := ofPure fun context arguments =>
  onList context.source fun items => do
    let separator ← stringArgument arguments 0 ","
    return .string (Text.join separator (← plainTexts items))

def split : Filter := ofPure fun context arguments => do
  let separator ← stringArgument arguments 0 ","
  match context.source with
  | .null => .ok .null
  | .string text =>
      if text.isEmpty then .ok (.list [])
      else .ok (.list ((Text.split separator text).map .string))
  | other => .error (.expectedString other.typeName)

end Reshape.Filter
