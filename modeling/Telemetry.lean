import Telemetry.Agent.Basic
import Telemetry.Agent.Capture
import Telemetry.Agent.Current
import Telemetry.Agent.Description
import Telemetry.Agent.Spans
import Telemetry.Agent.Tasks
import Telemetry.Agent.Transactions
import Telemetry.Bytes
import Telemetry.Compression
import Telemetry.Config.Basic
import Telemetry.Config.Environment
import Telemetry.ContextStack
import Telemetry.Decimal.Layout
import Telemetry.Decimal.Reader
import Telemetry.Decimal.Shortest
import Telemetry.Duration
import Telemetry.Event.ContextData
import Telemetry.Event.Line
import Telemetry.Event.Record
import Telemetry.Json.Basic
import Telemetry.Json.Reader
import Telemetry.Json.Writer
import Telemetry.Notice
import Telemetry.Outcome
import Telemetry.Proofs.Agent.Actions
import Telemetry.Proofs.Agent.BinaryCallers
import Telemetry.Proofs.Agent.Budget
import Telemetry.Proofs.Agent.BudgetRefusals
import Telemetry.Proofs.Agent.CallBudget
import Telemetry.Proofs.Agent.CallReport
import Telemetry.Proofs.Agent.CallTree
import Telemetry.Proofs.Agent.Calls
import Telemetry.Proofs.Agent.CauseChain
import Telemetry.Proofs.Agent.CurrentSpan
import Telemetry.Proofs.Agent.DroppedSpans
import Telemetry.Proofs.Agent.ErrorParents
import Telemetry.Proofs.Agent.InnerOperations
import Telemetry.Proofs.Agent.Moves
import Telemetry.Proofs.Agent.PropagatedSpans
import Telemetry.Proofs.Agent.Recognition
import Telemetry.Proofs.Agent.ReportOrder
import Telemetry.Proofs.Agent.RestartedTraces
import Telemetry.Proofs.Agent.Run
import Telemetry.Proofs.Agent.SampledStarts
import Telemetry.Proofs.Agent.ScopedSpans
import Telemetry.Proofs.Agent.ServiceChain
import Telemetry.Proofs.Agent.Settings
import Telemetry.Proofs.Agent.Shown
import Telemetry.Proofs.Agent.SpanDestinations
import Telemetry.Proofs.Agent.SpanEnds
import Telemetry.Proofs.Agent.SpanStates
import Telemetry.Proofs.Agent.Story
import Telemetry.Proofs.Agent.TaskIsolation
import Telemetry.Proofs.Agent.TaskPrograms
import Telemetry.Proofs.Agent.TimeSpent
import Telemetry.Proofs.Agent.TransactionRecord
import Telemetry.Proofs.Agent.Turns
import Telemetry.Proofs.Agent.Unsampled
import Telemetry.Proofs.Compression.Homogeneity
import Telemetry.Proofs.Compression.Segmentation
import Telemetry.Proofs.ContextStack.Confined
import Telemetry.Proofs.ContextStack.LiveGuards
import Telemetry.Proofs.ContextStack.Nested
import Telemetry.Proofs.Decimal.Fractions
import Telemetry.Proofs.Decimal.Numerals
import Telemetry.Proofs.Event.Destination
import Telemetry.Proofs.Event.Fields
import Telemetry.Proofs.Json.RoundTrip
import Telemetry.Proofs.Json.Shape
import Telemetry.Proofs.Queue.Delivery
import Telemetry.Proofs.Queue.ExporterCalls
import Telemetry.Proofs.Queue.Traffic
import Telemetry.Proofs.Random.Decisions
import Telemetry.Proofs.Redaction.CookieHeader
import Telemetry.Proofs.Redaction.Idempotence
import Telemetry.Proofs.Redaction.Monotonicity
import Telemetry.Proofs.Redaction.Noninterference
import Telemetry.Proofs.Redaction.Places
import Telemetry.Proofs.Redaction.QueryString
import Telemetry.Proofs.Redaction.Wildcards
import Telemetry.Proofs.StackTrace.Rendering
import Telemetry.Proofs.StackTrace.Truncation
import Telemetry.Proofs.Text.Lines
import Telemetry.Proofs.Text.Pieces
import Telemetry.Proofs.Text.Trimming
import Telemetry.Proofs.Trace.Editing
import Telemetry.Proofs.Trace.Encodings
import Telemetry.Proofs.Trace.Entries
import Telemetry.Proofs.Trace.HeaderGrammar
import Telemetry.Proofs.Trace.RepeatedHeaders
import Telemetry.Proofs.Trace.ReusedHeaders
import Telemetry.Proofs.Trace.RoundTrip
import Telemetry.Proofs.Trace.SampleRate
import Telemetry.Proofs.Transaction.Admission
import Telemetry.Proofs.Transaction.Changes
import Telemetry.Proofs.Transaction.Chronicle
import Telemetry.Proofs.Transaction.Conservation
import Telemetry.Proofs.Transaction.Direct
import Telemetry.Proofs.Transaction.Drafts
import Telemetry.Proofs.Transaction.DropTable
import Telemetry.Proofs.Transaction.Drops
import Telemetry.Proofs.Transaction.Identity
import Telemetry.Proofs.Transaction.Propagated
import Telemetry.Proofs.Transaction.Recount
import Telemetry.Proofs.Transaction.References
import Telemetry.Proofs.Transaction.Release
import Telemetry.Proofs.Transaction.Step
import Telemetry.Proofs.Transaction.TimeSpent
import Telemetry.Proofs.Transaction.Unsampled
import Telemetry.Queue.Basic
import Telemetry.Queue.Batch
import Telemetry.Queue.BatchConfig
import Telemetry.Queue.Memory
import Telemetry.Random.ChaCha
import Telemetry.Random.Sampler
import Telemetry.Redaction.FieldMatcher
import Telemetry.Redaction.Glob
import Telemetry.Redaction.Processor
import Telemetry.StackTrace
import Telemetry.Text.Alphanumeric
import Telemetry.Text.Blank
import Telemetry.Text.Hex
import Telemetry.Text.Integer
import Telemetry.Text.Lowercase
import Telemetry.Text.Printable
import Telemetry.Text.Quoted
import Telemetry.Text.Ranges
import Telemetry.Text.Split
import Telemetry.Trace.Flags
import Telemetry.Trace.Id
import Telemetry.Trace.IdSource
import Telemetry.Trace.Parent
import Telemetry.Trace.Propagation
import Telemetry.Trace.Vendor
import Telemetry.Transaction.Basic
import Telemetry.Transaction.DroppedStats
import Telemetry.Transaction.Lifecycle
import Telemetry.Transaction.Span
import Telemetry.Proofs.Event.Fields
