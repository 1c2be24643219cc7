import Telemetry.Config.Basic
import Telemetry.Transaction.DroppedStats
import Telemetry.Transaction.Span

/-!
# Transactions

A transaction is one top-level unit of work. It owns the spans recorded beneath it and the stand-ins
for those that were not, and it keeps the limits that were configured when it began. Spans and
stand-ins are named by their place in the transaction; a place never changes its meaning.

## Main definitions

* `Limits`: the settings that a transaction keeps.
* `Details`: what can be changed about a transaction until it ends.
* `Transaction`, `Transaction.create`, `Transaction.revise`.
* `Transaction.outbound`, `Transaction.outboundOf`: the trace context of outgoing calls.
-/

namespace Telemetry

/-- The settings that a transaction keeps. -/
structure Limits where
  maxSpans : Nat
  compression : CompressionSettings
  stackTraceMin : Option Duration
  exitSpanMin : Duration
  stackTraceLimit : Nat
  legacyHeader : Bool
  deriving DecidableEq

/-- The limits that the settings describe. -/
def Config.limits (c : Config) : Limits where
  maxSpans := c.maxSpans
  compression := ⟨c.compression, c.exactMatchMax, c.sameKindMax⟩
  stackTraceMin := c.stackTraceMin
  exitSpanMin := c.exitSpanMin
  stackTraceLimit := c.stackTraceLimit
  legacyHeader := c.legacyHeader

/-- What can be changed about a transaction until it ends. -/
structure Details where
  name : String := ""
  result : Option String := none
  outcome : Option Outcome := none
  context : Fields := []
  labels : Fields := []
  links : List Link := []

/-- The context with the labels in it. -/
def Details.fullContext (d : Details) : Fields :=
  ContextData.withTags d.labels d.context

/-- A top-level unit of work. `timestamp` counts nanoseconds; `created` counts the spans admitted
against the budget, `started` those that were reported, a composite as one. -/
structure Transaction where
  id : SpanId
  kind : String
  traceParent : TraceParent
  sampleRate : Option Float
  startedAt : Instant
  timestamp : Instant
  limits : Limits
  created : Nat := 0
  started : Nat := 0
  dropped : Nat := 0
  ended : Bool := false
  details : Details := {}
  stats : DroppedStats := []
  buffer : CompressionBuffer := {}
  spans : Array Span := #[]
  standIns : Array StandIn := #[]
  /-- Some duration was longer than a clock can represent; nothing is reported from then on. -/
  overflowed : Bool := false

/-- Whole microseconds since the epoch; zero before it. -/
def Instant.micros (t : Instant) : Nat := (t / 1000).toNat

namespace Transaction

/-- A transaction that begins now, at the wall clock time `wall`, or that began at `backdated`. -/
def create (id : SpanId) (kind : String) (traceParent : TraceParent) (sampleRate : Option Float)
    (links : List Link) (backdated : Option Instant) (limits : Limits) (now wall : Instant) :
    Transaction where
  id := id
  kind := kind
  traceParent := traceParent
  sampleRate := sampleRate
  startedAt := match backdated with
    | some t => now - Instant.since wall t
    | none => now
  timestamp := backdated.getD wall
  limits := limits
  details := { links }

/-- Spans and context are recorded. -/
def sampled (t : Transaction) : Bool := t.traceParent.isRecorded

/-- The trace that the transaction belongs to. -/
def traceId (t : Transaction) : TraceId := t.traceParent.traceId

/-- How many spans were sent and dropped. -/
def spanCount (t : Transaction) : SpanCount := ⟨t.started, t.dropped⟩

/-- The transaction with its details changed; nothing happens once it has ended. -/
def revise (t : Transaction) (f : Details → Details) : Transaction :=
  if t.ended then t else { t with details := f t.details }

/-- The context of a call made by the transaction itself. -/
def outbound (t : Transaction) : TraceParent := t.traceParent.withSpanId t.id

/-- The transaction is the root of its trace: no caller is known. -/
def isRoot (t : Transaction) : Bool := t.traceParent.spanId == t.id

/-- The transaction with a caller that is yet to report itself. -/
def withCaller (t : Transaction) (caller : SpanId) : Transaction :=
  { t with traceParent := t.traceParent.withSpanId caller }

/-- The span at a place, with its details if it has not ended. -/
def liveSpan? (t : Transaction) (i : Nat) : Option (Span × SpanDetails) :=
  match t.spans[i]? with
  | some s => s.details.map (s, ·)
  | none => none

/-- The transaction with the span at a place changed. -/
def modifySpan (t : Transaction) (i : Nat) (f : Span → Span) : Transaction :=
  { t with spans := t.spans.modify i f }

/-- The transaction with the details of a span changed; nothing happens once the span has ended. -/
def reviseSpan (t : Transaction) (i : Nat) (f : SpanDetails → SpanDetails) : Transaction :=
  t.modifySpan i fun s => { s with details := s.details.map f }

/-- The identifier that a span names as its parent: that of the enclosing span, or of the
transaction. -/
def parentId (t : Transaction) (s : Span) : SpanId :=
  match s.parent.bind (t.spans[·]?) with
  | some p => p.id
  | none => t.id

/-- The context of a call made by a span, and the transaction with the span marked as known to
another service. -/
def outboundOf (t : Transaction) (i : Nat) : Transaction × TraceParent :=
  match t.spans[i]? with
  | some s => (t.reviseSpan i ({ · with propagated := true }), t.traceParent.withSpanId s.id)
  | none => (t, t.outbound)

end Transaction

end Telemetry
