import Enclosure.Clock
import Enclosure.Command
import Enclosure.Main
import Enclosure.Scope.Document
import Enclosure.Settings.Load
import Enclosure.Yaml.Document
import Enclosure.Proofs.CursorRange
import Enclosure.Proofs.Parse.CharColumn
import Enclosure.Proofs.Parse.ColumnMap
import Enclosure.Proofs.Parse.ErrorCount
import Enclosure.Proofs.Parse.Nesting
import Enclosure.Proofs.Parse.Replacement
import Enclosure.Proofs.Parse.SpanExcerpt
import Enclosure.Proofs.Parse.WholeTree
import Enclosure.Proofs.Grammar.Runs
import Enclosure.Proofs.Scope.Collected
import Enclosure.Proofs.Scope.Context
import Enclosure.Proofs.Scope.Description
import Enclosure.Proofs.Scope.Down
import Enclosure.Proofs.Scope.Elsewhere
import Enclosure.Proofs.Scope.Names
import Enclosure.Proofs.Scope.PartialTrees
import Enclosure.Proofs.Scope.Stability
import Enclosure.Proofs.Text.Above
import Enclosure.Proofs.Text.Cuts
import Enclosure.Proofs.Text.Offset
import Enclosure.Proofs.Tree.Descent
import Enclosure.Proofs.Tree.Down
import Enclosure.Proofs.Tree.Growth
import Enclosure.Proofs.Tree.Scan
import Enclosure.Proofs.Parse.Outcome
import Enclosure.Proofs.Value.Lookup
import Enclosure.Proofs.Value.Nested
import Enclosure.Proofs.Value.WellKeyed
import Enclosure.Proofs.Text.Decimal
import Enclosure.Proofs.Scope.Rendering
import Enclosure.Proofs.Scope.Reasons
import Enclosure.Proofs.Scope.Reports
import Enclosure.Proofs.FilePath
import Enclosure.Proofs.Settings.Checked
import Enclosure.Proofs.Settings.ReadBack
import Enclosure.Proofs.Settings.Layers
import Enclosure.Proofs.Settings.Precedence
import Enclosure.Proofs.Json.Keys
import Enclosure.Proofs.Yaml.Keys
import Enclosure.Proofs.Yaml.Vacant
import Enclosure.Proofs.Yaml.Value
import Enclosure.Proofs.Settings.Variables
import Enclosure.Proofs.Settings.Sources
import Enclosure.Proofs.Settings.Failures
import Enclosure.Proofs.Settings.Settled
import Enclosure.Proofs.Settings.FileEntries
import Enclosure.Proofs.Journal.Delivery
import Enclosure.Proofs.Text.Canonical
import Enclosure.Proofs.Command.Coordinates
import Enclosure.Proofs.Command.Selection
import Enclosure.Proofs.Parse.LineRows
