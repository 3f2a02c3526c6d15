import Reshape.Filter.Date
import Reshape.Filter.Lookup
import Reshape.Filter.Order
import Reshape.Filter.Registry
import Reshape.Filter.Replace
import Reshape.Filter.Text

namespace Reshape.Registry

def standard [Record.Accessors] : Registry :=
  [("const", Filter.const), ("path", Filter.path), ("default", Filter.default), ("sum", Filter.sum),
    ("average", Filter.average), ("count", Filter.count), ("join", Filter.join),
    ("split", Filter.split),
    ("sort", Filter.sort), ("unique", Filter.unique), ("date", Filter.date),
    ("replace", Filter.replace)].foldl
    (fun registry (name, filter) => registry.register name filter) {}

end Reshape.Registry
