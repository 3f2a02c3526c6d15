import Reshape.Filter.Basic

namespace Reshape.Filter

def const : Filter := ofPure fun _ arguments => .ok (arguments.headD .null)

def default : Filter := ofPure fun context arguments =>
  .ok (if context.source.isNull then arguments.headD .null else context.source)

/-- The running value is itself a path or a pipeline, looked up in the root. A first
argument of true or false overrides the mode. -/
def path : Filter := fun context arguments =>
  let strict := match arguments with
    | .bool given :: _ => given
    | _ => context.strict
  match context.source with
  | .null => pure .null
  | .string text => ofLookup (context.lookup context.root (.string text) strict)
  | .list steps => ofLookup (context.lookup context.root (.list steps) strict)
  | other => throw (.fault (.expectedPath other.typeName))

end Reshape.Filter
