import Reshape.Access.Container
import Reshape.Access.Error
import Reshape.Access.Slot
import Reshape.Calendar.Date
import Reshape.Calendar.Directive
import Reshape.Calendar.Fields
import Reshape.Calendar.Format
import Reshape.Calendar.Moment
import Reshape.Calendar.Scan
import Reshape.Command.Arguments
import Reshape.Command.Failure
import Reshape.Command.Host
import Reshape.Command.Logging
import Reshape.Command.Output
import Reshape.Command.Run
import Reshape.Command.Settings
import Reshape.Config.Conversion
import Reshape.Config.Setting
import Reshape.Converter
import Reshape.Decimal.Binary64
import Reshape.Decimal.Shortest
import Reshape.Entries
import Reshape.Error
import Reshape.Filter.Aggregate
import Reshape.Filter.Basic
import Reshape.Filter.Date
import Reshape.Filter.Lookup
import Reshape.Filter.Order
import Reshape.Filter.Registry
import Reshape.Filter.Replace
import Reshape.Filter.Standard
import Reshape.Filter.Text
import Reshape.Json.Compact
import Reshape.Json.Node
import Reshape.Json.Pretty
import Reshape.Json.Reader
import Reshape.Json.Token
import Reshape.Main
import Reshape.Number
import Reshape.Path.Error
import Reshape.Path.Index
import Reshape.Path.Syntax
import Reshape.Path.Token
import Reshape.Pattern.Bracket
import Reshape.Pattern.Escape
import Reshape.Pattern.Flags
import Reshape.Pattern.Footprint
import Reshape.Pattern.Machine
import Reshape.Pattern.Node
import Reshape.Pattern.Place
import Reshape.Pattern.Reader
import Reshape.Pattern.Search
import Reshape.Pattern.Template
import Reshape.Read
import Reshape.Record
import Reshape.Schema
import Reshape.Shape
import Reshape.Text.Age
import Reshape.Text.Blank
import Reshape.Text.Break
import Reshape.Text.Category
import Reshape.Text.CharSet
import Reshape.Text.Fold
import Reshape.Text.Hex
import Reshape.Text.Property
import Reshape.Text.Script
import Reshape.Text.Split
import Reshape.Text.Table
import Reshape.Text.Trait
import Reshape.Toml.Reader
import Reshape.Toml.Table
import Reshape.Toml.Text
import Reshape.Value.Basic
import Reshape.Value.View
import Reshape.View
import Reshape.Write
import Reshape.Yaml.Cursor
import Reshape.Yaml.Node
import Reshape.Yaml.Printer
import Reshape.Yaml.Reader
import Reshape.Yaml.Scalar
import Reshape.Yaml.Text
import Reshape.Proofs.Path.Grammar
import Reshape.Proofs.Read.Evaluation
import Reshape.Proofs.Read.Keys
import Reshape.Proofs.Access.Containers
import Reshape.Proofs.Read.Strictness
import Reshape.Proofs.Access.RecordFree
import Reshape.Proofs.Write.Set
import Reshape.Proofs.Write.Lens
import Reshape.Proofs.Write.Siblings
import Reshape.Proofs.Write.Atomic
import Reshape.Proofs.Attempt
import Reshape.Proofs.Filter.BuiltIn
import Reshape.Proofs.Convert.RecordFree
import Reshape.Proofs.Convert.Outputs
import Reshape.Proofs.Convert.Nesting
import Reshape.Proofs.Path.Segment
import Reshape.Proofs.Value.Leaves
import Reshape.Proofs.Write.Fill
import Reshape.Proofs.Convert.Rebuild
import Reshape.Proofs.Convert.Strictness
import Reshape.Proofs.Convert.Suppression
import Reshape.Proofs.Read.Simulation
import Reshape.Proofs.Access.Shapes
import Reshape.Proofs.Access.Dynamic
import Reshape.Proofs.Write.Dynamic
import Reshape.Proofs.Access.Raw
import Reshape.Proofs.Write.Retention
import Reshape.Proofs.Convert.Checked
import Reshape.Proofs.Read.Observation
import Reshape.Proofs.Filter.Observation
import Reshape.Proofs.Write.Congruence
import Reshape.Proofs.Convert.Observation
import Reshape.Proofs.Access.Sources
import Reshape.Proofs.Access.Hidden
import Reshape.Proofs.Value.Equality
import Reshape.Proofs.Convert.Privacy
import Reshape.Proofs.Write.Growth
import Reshape.Proofs.Convert.Order
import Reshape.Proofs.Path.Text
import Reshape.Proofs.Read.Sequence
import Reshape.Proofs.Read.Descent
import Reshape.Proofs.Convert.Pipeline
import Reshape.Proofs.Value.Shown
import Reshape.Proofs.Value.Data
import Reshape.Proofs.Value.Equivalence
import Reshape.Proofs.Json.Scan
import Reshape.Proofs.Json.RoundTrip
import Reshape.Proofs.Write.Success
import Reshape.Proofs.Write.Update
import Reshape.Proofs.Write.Scaffold
import Reshape.Proofs.Json.Printable
import Reshape.Proofs.Command.Modes
import Reshape.Proofs.Access.Positions
import Reshape.Proofs.Access.Interface
import Reshape.Proofs.Write.Delete
import Reshape.Proofs.Write.Append
import Reshape.Proofs.Decimal.Rounding
import Reshape.Proofs.Filter.Sum
import Reshape.Proofs.Filter.Order
import Reshape.Proofs.Bounds.Guarded
import Reshape.Proofs.Bounds.Read
import Reshape.Proofs.Bounds.Write
import Reshape.Proofs.Filter.Unique
import Reshape.Proofs.Filter.Text
import Reshape.Proofs.Decimal.Nearest
import Reshape.Proofs.Decimal.Shortest
import Reshape.Proofs.Decimal.Layout
import Reshape.Proofs.Value.RecordFree
import Reshape.Proofs.Json.Numbers
import Reshape.Proofs.Json.Spacing
import Reshape.Proofs.Yaml.Quoted
import Reshape.Proofs.Yaml.Block
import Reshape.Proofs.Yaml.Numbers
import Reshape.Proofs.Yaml.Leaf
import Reshape.Proofs.Yaml.Nodes
import Reshape.Proofs.Yaml.Document
import Reshape.Proofs.Command.Printed
