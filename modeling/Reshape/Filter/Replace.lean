import Reshape.Filter.Basic
import Reshape.Pattern.Template

namespace Reshape.Filter

def replace : Filter := ofPure fun context arguments => do
  let pattern ← match arguments with
    | .string pattern :: _ => .ok pattern
    | _ => .error FilterFault.patternMissing
  let template ← stringArgument arguments 1 ""
  match Pattern.Expression.ofText? pattern with
  | none => .error (.patternInvalid pattern)
  | some expression =>
      match context.source with
      | .null => .ok .null
      | .string text => .ok (.string (expression.replaceAll text template))
      | other => .error (.expectedString other.typeName)

end Reshape.Filter
