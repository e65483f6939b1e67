import PlatformAudit.Audit
import PlatformAudit.Catalog.Tables
import PlatformAudit.Code.Symbols
import PlatformAudit.Code.Tree
import PlatformAudit.Code.Workspace
import PlatformAudit.Decimal.Digits
import PlatformAudit.Decimal.Shortest
import PlatformAudit.Detect.Ancestors
import PlatformAudit.Detect.Attributes
import PlatformAudit.Detect.Detector
import PlatformAudit.Detect.Directives
import PlatformAudit.Detect.Hit
import PlatformAudit.Detect.Literals
import PlatformAudit.Detect.Namespaces
import PlatformAudit.Detect.Types
import PlatformAudit.Digest.Sha256
import PlatformAudit.Document.Catalog
import PlatformAudit.Document.Code
import PlatformAudit.Document.Report
import PlatformAudit.Document.Risk
import PlatformAudit.Document.Settings
import PlatformAudit.Glob.Meaning
import PlatformAudit.Glob.Token
import PlatformAudit.Json.Decoder
import PlatformAudit.Json.Key
import PlatformAudit.Json.Numeral
import PlatformAudit.Json.Printer
import PlatformAudit.Json.Reader
import PlatformAudit.Json.Record
import PlatformAudit.Json.Value
import PlatformAudit.Pattern.Automaton
import PlatformAudit.Pattern.Bracket
import PlatformAudit.Pattern.CharSet
import PlatformAudit.Pattern.Compile
import PlatformAudit.Pattern.Cursor
import PlatformAudit.Pattern.Escape
import PlatformAudit.Pattern.Expr
import PlatformAudit.Pattern.LiteralSet
import PlatformAudit.Pattern.Parser
import PlatformAudit.Pattern.Positions
import PlatformAudit.Pattern.ScalarSet
import PlatformAudit.Pattern.Shape
import PlatformAudit.Pattern.Tree
import PlatformAudit.Report.Basic
import PlatformAudit.Report.Filter
import PlatformAudit.Risk.Category
import PlatformAudit.Risk.Finding
import PlatformAudit.Risk.Severity
import PlatformAudit.Rule.Basic
import PlatformAudit.Rule.Detection
import PlatformAudit.Rule.LegacyPackages
import PlatformAudit.Rule.NativeInterop
import PlatformAudit.Rule.Registry
import PlatformAudit.Rule.SessionStore
import PlatformAudit.Run.Error
import PlatformAudit.Run.Execution
import PlatformAudit.Run.Settings
import PlatformAudit.Run.Stage
import PlatformAudit.Table
import PlatformAudit.Text.Alphanumeric
import PlatformAudit.Text.Ascii
import PlatformAudit.Text.Blank
import PlatformAudit.Text.Bytes
import PlatformAudit.Text.CaseFold
import PlatformAudit.Text.CaseRun
import PlatformAudit.Text.CodeRange
import PlatformAudit.Text.Hexadecimal
import PlatformAudit.Text.Lowercase
import PlatformAudit.Text.Property
import PlatformAudit.Text.Property.Ages
import PlatformAudit.Text.Property.Binary
import PlatformAudit.Text.Property.Breaks
import PlatformAudit.Text.Property.Categories
import PlatformAudit.Text.Property.Row
import PlatformAudit.Text.Property.ScriptExtensions
import PlatformAudit.Text.Property.Scripts
import PlatformAudit.Text.Quoted
import PlatformAudit.Text.Segment
import PlatformAudit.Text.Word
import PlatformAudit.Time.Calendar
import PlatformAudit.Time.Timestamp
import PlatformAudit.Proofs.Run.Phase
import PlatformAudit.Proofs.Run.Loading
import PlatformAudit.Proofs.Run.Outcome
import PlatformAudit.Proofs.Run.Endings
import PlatformAudit.Proofs.Run.Isolation
import PlatformAudit.Proofs.Report.Registration
import PlatformAudit.Proofs.Report.Filtering
import PlatformAudit.Proofs.Rule.Builtin
import PlatformAudit.Proofs.Rule.Scanning
import PlatformAudit.Proofs.Report.Selection
import PlatformAudit.Proofs.Code.Workspace
import PlatformAudit.Proofs.Report.Noninterference
import PlatformAudit.Proofs.Run.Observer
import PlatformAudit.Proofs.Run.Cancellation
import PlatformAudit.Proofs.Report.Provenance
import PlatformAudit.Proofs.Report.UnitOrder
import PlatformAudit.Proofs.Table
import PlatformAudit.Proofs.Report.Digest
import PlatformAudit.Proofs.Decimal.Digits
import PlatformAudit.Proofs.Risk.Fingerprint
import PlatformAudit.Proofs.Json.Text
import PlatformAudit.Proofs.Json.Codec
import PlatformAudit.Proofs.Json.Record
import PlatformAudit.Proofs.Document.Code
import PlatformAudit.Proofs.Json.Real
import PlatformAudit.Proofs.Document.Report
import PlatformAudit.Proofs.Time.Calendar
import PlatformAudit.Proofs.Time.Timestamp
import PlatformAudit.Proofs.Detect.Visit
import PlatformAudit.Proofs.Detect.Ancestors
import PlatformAudit.Proofs.Detect.Worklist
import PlatformAudit.Proofs.Text.Parts
import PlatformAudit.Proofs.Detect.TypeArguments
import PlatformAudit.Proofs.Detect.Outermost
import PlatformAudit.Proofs.Detect.References
import PlatformAudit.Proofs.Detect.Resolution
import PlatformAudit.Proofs.Code.Listing
import PlatformAudit.Proofs.Rule.SessionStore
import PlatformAudit.Proofs.Text.LatinCase
import PlatformAudit.Proofs.Rule.NativeInterop
import PlatformAudit.Proofs.Rule.Template
import PlatformAudit.Proofs.Pattern.Matching
import PlatformAudit.Proofs.Text.CaseFold
import PlatformAudit.Proofs.Pattern.Quoting
import PlatformAudit.Proofs.Pattern.Forms
import PlatformAudit.Proofs.Text.Segments
import PlatformAudit.Proofs.Rule.LiteralRule
import PlatformAudit.Proofs.Rule.EnvironmentToken
import PlatformAudit.Proofs.Rule.PathLiteral
import PlatformAudit.Proofs.Rule.EmbeddedPassword
import PlatformAudit.Proofs.Detect.Directives
import PlatformAudit.Proofs.Detect.Attributes
import PlatformAudit.Proofs.Text.Lowercase
import PlatformAudit.Proofs.Glob.Literal
import PlatformAudit.Proofs.Report.Exclusion
import PlatformAudit.Proofs.Text.ByteOrder
import PlatformAudit.Proofs.Report.Aggregation
import PlatformAudit.Proofs.Text.Boundary
import PlatformAudit.Proofs.Detect.Namespaces
import PlatformAudit.Proofs.Code.Traversal
import PlatformAudit.Proofs.Json.Overriding
import PlatformAudit.Proofs.Document.Settings
