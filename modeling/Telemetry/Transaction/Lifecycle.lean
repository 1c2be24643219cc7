import Telemetry.Transaction.Basic

/-!
# Opening and ending spans

A transaction decides whether a span is recorded. It is not if the transaction is not sampled or has
ended; if the enclosing span is a stand-in, for the reason of that one; if the enclosing span is a
leaf; or if the budget is used up. Opening and deciding are two steps, because only a recorded span
takes an identifier.

When a span ends, the span that its own buffer holds is reported first; then it is offered to the
buffer of whoever encloses it, and what comes out of there is reported. When the transaction ends,
so is the span in its buffer, and then the transaction itself. Reporting leaves out calls that were
too short, and counts them as dropped.

## Main definitions

* `Enclosing`, `Transaction.admission`: the decision.
* `Transaction.openSpan`, `Transaction.openStandIn`.
* `Transaction.endSpan`, `Transaction.endStandIn`, `Transaction.finish`.
-/

namespace Telemetry

/-- What encloses a span, as its transaction sees it. A span of another transaction encloses
nothing, unless it is a leaf. -/
inductive Enclosing
  | transaction
  | span (place : Nat)
  | leaf
  | standIn (reason : DropReason)
  deriving DecidableEq

namespace Transaction

/-- The budget admits one more span. -/
def hasBudget (t : Transaction) : Bool :=
  t.limits.maxSpans = 0 || t.created < t.limits.maxSpans

/-- Whether a span is recorded: beneath which span, or why not. -/
def admission (t : Transaction) (e : Enclosing) : Except DropReason (Option Nat) :=
  if !t.sampled || t.ended then .error .notRecording
  else match e with
  | .standIn reason => .error reason
  | .leaf => .error .leafParent
  | .span i => if t.hasBudget then .ok (some i) else .error .maxSpansExceeded
  | .transaction => if t.hasBudget then .ok none else .error .maxSpansExceeded

/-- The transaction with one more recorded span, at the last place. -/
def openSpan (t : Transaction) (b : SpanBuilder) (parent : Option Nat) (id : SpanId)
    (now : Instant) : Transaction :=
  let start := b.start.getD now
  let offset := Instant.since start t.startedAt
  { t with
    created := t.created + 1
    spans := t.spans.push
      { id, parent, leaf := b.leaf, start, offset, timestamp := t.timestamp + offset
        details := some b.details } }

/-- The transaction with one more stand-in, at the last place. -/
def openStandIn (t : Transaction) (b : SpanBuilder) (reason : DropReason) (now : Instant) :
    Transaction :=
  { t with
    dropped := if reason = .maxSpansExceeded then t.dropped + 1 else t.dropped
    standIns := t.standIns.push (b.standIn reason now) }

/-- The transaction with dropped spans added to its statistics. -/
def track (t : Transaction) (resource : String) (outcome : Outcome) (count : Nat)
    (sum : Duration) : Transaction :=
  { t with
    stats := t.stats.track resource outcome count sum
    overflowed := t.overflowed || t.stats.overflows resource outcome sum }

/-- The transaction with a finished span left out. -/
def discard (t : Transaction) (s : FinishedSpan) : Transaction :=
  let t := { t with dropped := t.dropped + s.count }
  match s.resource with
  | some resource => t.track resource s.record.outcome s.count s.total
  | none => t

/-- The finished span is a call too short to be reported. -/
def isTooShort (t : Transaction) (s : FinishedSpan) : Bool :=
  s.discardable && s.record.duration < t.limits.exitSpanMin

/-- Reports a finished span, or leaves it out. -/
def report (t : Transaction) (s : FinishedSpan) : Transaction × List SpanRecord :=
  if t.overflowed then (t, [])
  else if t.isTooShort s then (t.discard s, [])
  else ({ t with started := t.started + 1 }, [s.toRecord])

/-- Reports finished spans in order. -/
def reportAll (t : Transaction) : List FinishedSpan → Transaction × List SpanRecord
  | [] => (t, [])
  | s :: rest =>
    let (t, first) := t.report s
    let (t, others) := t.reportAll rest
    (t, first ++ others)

/-- The buffer of a span, or of the transaction. -/
def bufferOf (t : Transaction) : Option Nat → CompressionBuffer
  | some i => (t.spans[i]?.map (·.buffer)).getD {}
  | none => t.buffer

/-- The transaction with the buffer of a span, or its own, exchanged. -/
def setBuffer (t : Transaction) (b : CompressionBuffer) : Option Nat → Transaction
  | some i => t.modifySpan i ({ · with buffer := b })
  | none => { t with buffer := b }

/-- Offers a finished span to the buffer of whoever encloses it. -/
def offer (t : Transaction) (parent : Option Nat) (s : FinishedSpan) :
    Transaction × List FinishedSpan :=
  let b := t.bufferOf parent
  let (b', ready) := b.offer t.limits.compression s
  ({ t.setBuffer b' parent with
      overflowed := t.overflowed || b.offerOverflows t.limits.compression s }, ready)

/-- How many frames are wanted for a span that ends now; none if it has ended before, was too
short, or frames are not wanted at all. -/
def framesWanted (t : Transaction) (i : Nat) (now : Instant) : Option Nat :=
  match t.liveSpan? i with
  | none => none
  | some (s, d) =>
    match t.limits.stackTraceMin with
    | some shortest =>
      if shortest ≤ s.lasted d now && 0 < t.limits.stackTraceLimit then
        some t.limits.stackTraceLimit
      else none
    | none => none

/-- A span as it ends now. -/
def finished (t : Transaction) (s : Span) (d : SpanDetails) (default : Outcome) (now : Instant)
    (frames : List Frame) : FinishedSpan :=
  let (context, resource) := s.contextAtEnd d
  { record :=
      { id := s.id
        transactionId := t.id
        parentId := t.parentId s
        traceId := t.traceId
        name := d.name
        kind := d.kind
        subtype := d.subtype
        action := d.action
        start := s.offset
        timestamp := s.timestamp.micros
        duration := s.lasted d now
        outcome := d.outcome.getD default
        sync := d.sync
        sampleRate := t.sampleRate
        context := ContextData.report (ContextData.withTags d.labels context)
        stacktrace := frames
        composite := none
        links := d.links }
    leaf := s.leaf
    propagated := d.propagated
    resource := resource }

/-- Ends the span at a place, with an outcome for the case that none was set. Nothing happens if it
has ended before. -/
def endSpan (t : Transaction) (i : Nat) (default : Outcome) (now : Instant)
    (frames : List Frame) : Transaction × List SpanRecord :=
  match t.liveSpan? i with
  | none => (t, [])
  | some (s, d) =>
    let finished := t.finished s d default now frames
    let (closed, held) := s.buffer.close
    let t := t.modifySpan i ({ · with details := none, buffer := closed })
    let (t, early) := t.reportAll held.toList
    let (t, ready) := t.offer s.parent finished
    let (t, late) := t.reportAll ready
    (t, early ++ late)

/-- The transaction with the stand-in at a place changed. -/
def modifyStandIn (t : Transaction) (i : Nat) (f : StandIn → StandIn) : Transaction :=
  { t with standIns := t.standIns.modify i f }

/-- Ends the stand-in at a place. The first time, it is counted under its destination if it has
one. -/
def endStandIn (t : Transaction) (i : Nat) (default : Outcome) (now : Instant) : Transaction :=
  match t.standIns[i]? with
  | none => t
  | some s =>
    if s.ended then t
    else
      let t := t.modifyStandIn i ({ · with ended := true })
      match s.resource with
      | some resource =>
        t.track resource (s.outcome.getD default) 1
          (s.duration.getD (Instant.since now s.start))
      | none => t

/-- The record of a transaction that ends now. -/
def toRecord (t : Transaction) (now : Instant) : TransactionRecord where
  id := t.id
  traceId := t.traceId
  parentId := if t.isRoot then none else some t.traceParent.spanId
  name := t.details.name
  kind := t.kind
  result := t.details.result
  outcome := t.details.outcome.getD .unknown
  timestamp := t.timestamp.micros
  duration := Instant.since now t.startedAt
  sampled := t.sampled
  sampleRate := t.sampleRate
  spanCount := t.spanCount
  droppedSpanStats := t.stats
  links := t.details.links
  context := if t.sampled then ContextData.report t.details.fullContext else none

/-- Ends the transaction, with a result and a name in the place of the current ones where they are
given. The context of a sampled transaction goes into its record. Nothing happens if the transaction
has ended before. -/
def finish (t : Transaction) (result name : Option String) (now : Instant) :
    Transaction × List Event :=
  if t.ended then (t, [])
  else
    let (closed, held) := t.buffer.close
    let t :=
      { t with
        ended := true
        buffer := closed
        details := { t.details with
          result := result.or t.details.result
          name := name.getD t.details.name } }
    let (t, spans) := t.reportAll held.toList
    let record := t.toRecord now
    let t := if t.sampled then { t with details := { t.details with context := [], labels := [] } }
      else t
    (t, spans.map .span ++ if t.overflowed then [] else [.transaction record])

end Transaction

end Telemetry
