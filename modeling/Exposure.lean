import Exposure.Access
import Exposure.Catalog.Basic
import Exposure.Catalog.Builder
import Exposure.Catalog.Containment
import Exposure.Catalog.Dump
import Exposure.Catalog.Record
import Exposure.Command.Arguments
import Exposure.Command.Run
import Exposure.Configuration.Basic
import Exposure.Configuration.Form
import Exposure.ConfigurationError
import Exposure.Decimal.Shortest
import Exposure.Document.Mismatch
import Exposure.File.Path
import Exposure.File.System
import Exposure.File.Tree
import Exposure.Glob
import Exposure.Glob.Expression
import Exposure.Graph.Basic
import Exposure.Graph.Search
import Exposure.Instantiation.Header
import Exposure.Instantiation.HeaderForm
import Exposure.Instantiation.Table
import Exposure.Json.Fault
import Exposure.Json.Lexeme
import Exposure.Json.Read
import Exposure.Json.Skip
import Exposure.Json.Value
import Exposure.Json.Whole
import Exposure.Json.Written
import Exposure.Kind
import Exposure.Location
import Exposure.Main
import Exposure.Matcher
import Exposure.Name.Basic
import Exposure.Name.Index
import Exposure.Name.Segments
import Exposure.Name.Spans
import Exposure.Pass.Error
import Exposure.Pass.FrontEnd
import Exposure.Pass.Run
import Exposure.Policy.Basic
import Exposure.Policy.Rule
import Exposure.Proofs.Ascending
import Exposure.Proofs.Catalog.Acceptance
import Exposure.Proofs.Catalog.Agreement
import Exposure.Proofs.Catalog.Dump
import Exposure.Proofs.Catalog.Enclosure
import Exposure.Proofs.Catalog.Growth
import Exposure.Proofs.Catalog.Loading
import Exposure.Proofs.Catalog.Namespaces
import Exposure.Proofs.Catalog.Records
import Exposure.Proofs.Catalog.Representation
import Exposure.Proofs.Catalog.Reread
import Exposure.Proofs.Catalog.Sound
import Exposure.Proofs.Configuration.RuleLists
import Exposure.Proofs.Configuration.WrittenRules
import Exposure.Proofs.File.Footprint
import Exposure.Proofs.File.Route
import Exposure.Proofs.Glob.Expression
import Exposure.Proofs.Glob.Pieces
import Exposure.Proofs.Graph.Search
import Exposure.Proofs.Instantiation.Brackets
import Exposure.Proofs.Instantiation.Checked
import Exposure.Proofs.Instantiation.Faults
import Exposure.Proofs.Instantiation.Items
import Exposure.Proofs.Instantiation.Lines
import Exposure.Proofs.Instantiation.Precedence
import Exposure.Proofs.Instantiation.Recovery
import Exposure.Proofs.Json.Reading
import Exposure.Proofs.Json.Texts
import Exposure.Proofs.Json.Yielding
import Exposure.Proofs.Name.Boundaries
import Exposure.Proofs.Name.Distribution
import Exposure.Proofs.Name.Rereading
import Exposure.Proofs.Name.RoundTrip
import Exposure.Proofs.Name.Splitting
import Exposure.Proofs.Pass.Containment
import Exposure.Proofs.Pass.Emission
import Exposure.Proofs.Pass.Events
import Exposure.Proofs.Pass.Outputs
import Exposure.Proofs.Pass.Phases
import Exposure.Proofs.Pass.Rendering
import Exposure.Proofs.Pass.Running
import Exposure.Proofs.Pass.Steps
import Exposure.Proofs.Resolution.Conventional
import Exposure.Proofs.Resolution.Decided
import Exposure.Proofs.Resolution.DecisionMap
import Exposure.Proofs.Resolution.Deletion
import Exposure.Proofs.Resolution.LastMatch
import Exposure.Proofs.Resolution.Locality
import Exposure.Proofs.Resolution.Matching
import Exposure.Proofs.Resolution.Members
import Exposure.Proofs.Resolution.Reordering
import Exposure.Proofs.Resolution.Scanning
import Exposure.Proofs.Resolution.Selection
import Exposure.Proofs.Resolution.Views
import Exposure.Proofs.Text.Encoding
import Exposure.Resolution
import Exposure.Surface
import Exposure.Text.Blank
import Exposure.Text.Bytes
import Exposure.Text.Digit
import Exposure.Text.Quoted
import Exposure.Text.Unmarked
import Exposure.Yaml.Cursor
import Exposure.Yaml.Form
import Exposure.Yaml.Node
import Exposure.Yaml.Scalar.Block
import Exposure.Yaml.Scalar.Gap
import Exposure.Yaml.Scalar.Plain
import Exposure.Yaml.Scalar.Quoted
import Exposure.Yaml.SyntaxError
import Exposure.Yaml.Tag
import Exposure.Yaml.Token.Basic
import Exposure.Yaml.Token.Layout
import Exposure.Yaml.Token.Property
import Exposure.Yaml.Token.Stream
import Exposure.Yaml.Tree
import Exposure.Yaml.Untyped
