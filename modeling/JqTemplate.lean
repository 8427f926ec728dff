import JqTemplate.Text.Alphanumeric
import JqTemplate.Text.Printable
import JqTemplate.Text.Blank
import JqTemplate.Text.Quoted
import JqTemplate.Text.Similarity
import JqTemplate.Text.Utf8
import JqTemplate.Statement.Stream
import JqTemplate.Order
import JqTemplate.Diagnostic.Report
import JqTemplate.Check
import JqTemplate.Editor.Marker
import JqTemplate.Editor.Completion
import JqTemplate.Editor.Outline
import JqTemplate.Editor.Folding
import JqTemplate.Highlight.Template
import JqTemplate.Highlight.Markup
import JqTemplate.Highlight.Embedding
import JqTemplate.Highlight.Prepare
import JqTemplate.Highlight.Terminal
import JqTemplate.Highlight.Page
import JqTemplate.Decimal.Shortest
import JqTemplate.Toml.Document
import JqTemplate.Files.Glob
import JqTemplate.Config.Locate
import JqTemplate.Store
import JqTemplate.Server.Uri
import JqTemplate.Server.Session
import JqTemplate.Json.Reader
import JqTemplate.Text.Escape
import JqTemplate.Command.Run
import JqTemplate.Server.Protocol
import JqTemplate.Main
import JqTemplate.Proofs.Parse
import JqTemplate.Proofs.Search
import JqTemplate.Proofs.Nesting
import JqTemplate.Proofs.Findings
import JqTemplate.Proofs.Balance
import JqTemplate.Proofs.Forest
import JqTemplate.Proofs.Innermost
import JqTemplate.Proofs.Accounting
import JqTemplate.Proofs.Grammar
import JqTemplate.Proofs.Head
import JqTemplate.Proofs.Splice
import JqTemplate.Proofs.Mending
import JqTemplate.Proofs.Enclosed
import JqTemplate.Proofs.Repair
import JqTemplate.Proofs.Position
import JqTemplate.Proofs.Layout
import JqTemplate.Proofs.Around
import JqTemplate.Proofs.Outline
import JqTemplate.Proofs.Outline.Listing
import JqTemplate.Proofs.Outline.Placement
import JqTemplate.Proofs.Outline.Order
import JqTemplate.Proofs.Session
import JqTemplate.Proofs.Staleness
import JqTemplate.Proofs.Mirror
import JqTemplate.Proofs.Composition
import JqTemplate.Proofs.Recovery
import JqTemplate.Proofs.Agreement
import JqTemplate.Proofs.Delivery
import JqTemplate.Proofs.Tokens
import JqTemplate.Proofs.Geometry
import JqTemplate.Proofs.Alike
import JqTemplate.Proofs.LineEndings
import JqTemplate.Proofs.LineEndings.Reading
import JqTemplate.Proofs.LineEndings.Checking
import JqTemplate.Proofs.Counterparts
import JqTemplate.Proofs.Continuation
import JqTemplate.Proofs.Lines
import JqTemplate.Proofs.Report
import JqTemplate.Proofs.Report.Marks
import JqTemplate.Proofs.Report.Colors
import JqTemplate.Proofs.Offsets
import JqTemplate.Proofs.Ranges
import JqTemplate.Proofs.Inspection
import JqTemplate.Proofs.Completion
import JqTemplate.Proofs.Folding
import JqTemplate.Proofs.Places
import JqTemplate.Proofs.Effect
import JqTemplate.Proofs.Rejection
import JqTemplate.Proofs.Settings
import JqTemplate.Proofs.Unreachable
import JqTemplate.Proofs.Closing
import JqTemplate.Proofs.Diagnosis
import JqTemplate.Proofs.Listing
import JqTemplate.Proofs.Misconfiguration
import JqTemplate.Proofs.Location
