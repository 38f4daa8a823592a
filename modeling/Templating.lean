import Templating.Code.Generation
import Templating.Form.File
import Templating.Output.Tracker
import Templating.Proofs.Code.Supply
import Templating.Proofs.Position.Cursor
import Templating.Proofs.Template.Expressions
import Templating.Proofs.Template.Rejection
import Templating.Render.Summary
import Templating.Render.Url
import Templating.Serve.Page
import Templating.Serve.Stylesheet
import Templating.SettingsFile
import Templating.Proofs.Code.Numbering
import Templating.Proofs.Code.Closed
import Templating.Proofs.Code.Acceptance
import Templating.Proofs.Code.Copies
import Templating.Proofs.Code.Mappings
import Templating.Proofs.SourceMap.Completeness
import Templating.Proofs.SourceMap.Lookup
import Templating.Proofs.SourceMap.Translation
import Templating.Proofs.Output.Content
import Templating.Proofs.Render.Delivery
import Templating.Proofs.Render.Calls
import Templating.Proofs.Render.Deduplication
import Templating.Proofs.Execution.Meaning
import Templating.Proofs.Execution.Node
import Templating.Proofs.Execution.Statement
import Templating.Proofs.Execution.Opening
import Templating.Proofs.Execution.Preservation
import Templating.Proofs.Execution.Generation
import Templating.Proofs.Output.Limit
import Templating.Proofs.Code.Streaming
import Templating.Proofs.Output.Growth
import Templating.Proofs.Output.Shortage
import Templating.Proofs.Render.Effect
import Templating.Proofs.Render.Plan
import Templating.Proofs.Render.Bounded
import Templating.Proofs.Render.Moment
import Templating.Proofs.Render.Faithfulness
import Templating.Proofs.Text.Piece
import Templating.Proofs.Style.Declaration
import Templating.Proofs.Style.Rule
import Templating.Proofs.Render.Trace
import Templating.Proofs.Render.Registration
import Templating.Proofs.Serve.Stack
import Templating.Proofs.Form.Node
import Templating.Proofs.Form.Exchange
import Templating.Proofs.Code.Literals
import Templating.Proofs.Render.Failure
import Templating.Proofs.Digest.Identifier
import Templating.Proofs.Code.Scripts
import Templating.Proofs.Style.Identity
import Templating.Proofs.Code.Rejection
import Templating.Proofs.Render.Address
import Templating.Proofs.Render.Arguments
import Templating.Proofs.SourceMap.Search
import Templating.Proofs.Parameters.Bindings
import Templating.Proofs.Style.Builder
import Templating.Proofs.Script.Closing
import Templating.Proofs.Output.Tracking
import Templating.Proofs.Code.Scope
import Templating.Proofs.Style.Inertness
import Templating.Proofs.Json.Respelling
import Templating.Proofs.Form.Respelling
import Templating.Proofs.Style.Attribute
import Templating.Proofs.Code.Level
import Templating.Proofs.Code.Origin
import Templating.Proofs.Code.Balance
import Templating.Proofs.Code.Nesting
