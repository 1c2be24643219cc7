import Telemetry.Duration
import Telemetry.Json.Basic
import Telemetry.Outcome
import Telemetry.Redaction.Processor
import Telemetry.StackTrace
import Telemetry.Trace.Parent

/-!
# Events

What the agent reports: finished transactions, finished spans, and captured errors and messages.
Times are exact in a record; how they are written is decided when it is.

## Main definitions

* `TransactionRecord`, `SpanRecord`, `ErrorRecord`, `Event`.
* `Composite`: what a span record adds when it stands for several merged spans.
* `ProcessorChain.process`: the event with its context redacted. Spans are left alone.
-/

namespace Telemetry

/-- A reference to a span of another trace. -/
structure Link where
  traceId : TraceId
  spanId : SpanId
  deriving DecidableEq

/-- The caller that a trace context names. -/
def TraceParent.link (tp : TraceParent) : Link := ⟨tp.traceId, tp.spanId⟩

/-- How the spans of a composite resemble each other. -/
inductive CompressionStrategy
  /-- In name, type, subtype, action and destination. -/
  | exactMatch
  /-- In type, subtype and destination. -/
  | sameKind
  deriving DecidableEq, Repr

/-- How many spans were merged, by which resemblance, and how long they took together. -/
structure Composite where
  strategy : CompressionStrategy
  count : Nat
  sum : Duration
  deriving DecidableEq, Repr

/-- How many spans were sent and how many were dropped. A composite is sent as one. -/
structure SpanCount where
  started : Nat
  dropped : Nat
  deriving DecidableEq, Repr, Inhabited

/-- The dropped spans that share a destination and an outcome. -/
structure DroppedSpanStat where
  resource : String
  outcome : Outcome
  count : Nat
  sum : Duration
  deriving DecidableEq, Repr

/-- A finished transaction. `timestamp` counts microseconds. -/
structure TransactionRecord where
  id : SpanId
  traceId : TraceId
  parentId : Option SpanId
  name : String
  kind : String
  result : Option String
  outcome : Outcome
  timestamp : Nat
  duration : Duration
  sampled : Bool
  sampleRate : Option Float
  spanCount : SpanCount
  droppedSpanStats : List DroppedSpanStat
  links : List Link
  context : Option Fields
  deriving Inhabited

/-- A finished span, or several merged ones. `start` counts from the start of the transaction. -/
structure SpanRecord where
  id : SpanId
  transactionId : SpanId
  parentId : SpanId
  traceId : TraceId
  name : String
  kind : String
  subtype : Option String
  action : Option String
  start : Duration
  timestamp : Nat
  duration : Duration
  outcome : Outcome
  sync : Option Bool
  sampleRate : Option Float
  context : Option Fields
  stacktrace : List Frame
  composite : Option Composite
  links : List Link
  deriving Inhabited

/-- How serious a captured message is. -/
inductive Severity
  | debug
  | info
  | warning
  | error
  | critical
  deriving DecidableEq, Repr

/-- A message without a level is informational. -/
instance : Inhabited Severity := ⟨.info⟩

/-- The name of a level. -/
def Severity.name : Severity → String
  | .debug => "debug"
  | .info => "info"
  | .warning => "warning"
  | .error => "error"
  | .critical => "critical"

/-- The level with a name. -/
def Severity.ofName? (name : String) : Option Severity :=
  [debug, info, warning, error, critical].find? (·.name == name)

/-- An error and its causes, which have causes of their own. -/
inductive ExceptionRecord
  | mk (message kind : String) (handled : Bool) (stacktrace : List Frame)
      (cause : List ExceptionRecord)

/-- A captured message. -/
structure LogRecord where
  message : String
  level : Severity
  stacktrace : List Frame

/-- The transaction that an error happened in. -/
structure TransactionSummary where
  sampled : Bool
  kind : String
  name : String

/-- A captured error or message. -/
structure ErrorRecord where
  id : TraceId
  timestamp : Nat
  traceId : Option TraceId := none
  transactionId : Option SpanId := none
  parentId : Option SpanId := none
  culprit : Option String
  exception : Option ExceptionRecord
  log : Option LogRecord
  transaction : Option TransactionSummary := none
  context : Option Fields := none
  deriving Inhabited

/-- One finished unit of telemetry. -/
inductive Event
  | transaction (record : TransactionRecord)
  | span (record : SpanRecord)
  | error (record : ErrorRecord)

namespace Event

/-- The name of the kind of event. -/
def kind : Event → String
  | .transaction _ => "transaction"
  | .span _ => "span"
  | .error _ => "error"

/-- The free-form part of the event. -/
def context : Event → Option Fields
  | .transaction r => r.context
  | .span r => r.context
  | .error r => r.context

end Event

/-- The event with its context redacted. -/
def ProcessorChain.process (chain : ProcessorChain) : Event → Event
  | .transaction r => .transaction { r with context := r.context.map chain.redact }
  | .span r => .span r
  | .error r => .error { r with context := r.context.map chain.redact }

end Telemetry
