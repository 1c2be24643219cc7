import Telemetry.Compression
import Telemetry.Event.ContextData

/-!
# Spans of a transaction

A span is one timed operation within a transaction. It can be changed until it ends, which takes its
details away; ending it again does nothing. Where the transaction does not record a span a stand-in
takes its place: it remembers why, and, if the budget was the reason, under which destination it is
counted when it ends.

## Main definitions

* `SpanBuilder`: the description of a span to open.
* `DropReason`: why a span is not recorded.
* `SpanDetails`, `Span`: a recorded span.
* `StandIn`: a span that is not recorded.
-/

namespace Telemetry

/-- The description of a span to open. -/
structure SpanBuilder where
  name : String := ""
  kind : String := ""
  subtype : Option String := none
  action : Option String := none
  context : Fields := []
  /-- No spans are recorded beneath it. -/
  leaf : Bool := false
  links : List Link := []
  /-- When it started, if that was not just now. -/
  start : Option Instant := none
  /-- How long it took, if that is known beforehand. -/
  duration : Option Duration := none
  sync : Option Bool := none
  labels : Fields := []

/-- The description with one more label. -/
def SpanBuilder.withLabel (b : SpanBuilder) (key : String) (value : Json) : SpanBuilder :=
  { b with labels := Label.put key value b.labels }

/-- Why a span is not recorded. -/
inductive DropReason
  /-- There is no transaction, or it is not sampled, or it has ended. -/
  | notRecording
  /-- The budget of the transaction is used up. -/
  | maxSpansExceeded
  /-- The enclosing span is a leaf. -/
  | leafParent
  deriving DecidableEq, Repr

/-- The name of a reason. -/
def DropReason.name : DropReason → String
  | .notRecording => "NotRecording"
  | .maxSpansExceeded => "MaxSpansExceeded"
  | .leafParent => "LeafParent"

/-- What can be changed about a span until it ends. -/
structure SpanDetails where
  name : String
  kind : String
  subtype : Option String
  action : Option String
  context : Fields
  labels : Fields
  links : List Link
  outcome : Option Outcome := none
  sync : Option Bool
  duration : Option Duration
  /-- Another service was told about the span. -/
  propagated : Bool := false

/-- A recorded span. `parent` is the place of the enclosing span among those of the transaction;
`offset` is the time from the start of the transaction, and `timestamp` counts nanoseconds. -/
structure Span where
  id : SpanId
  parent : Option Nat
  leaf : Bool
  start : Instant
  offset : Duration
  timestamp : Instant
  /-- `none` once the span has ended. -/
  details : Option SpanDetails
  buffer : CompressionBuffer := {}

/-- A span that is not recorded. -/
structure StandIn where
  reason : DropReason
  resource : Option String
  start : Instant
  duration : Option Duration
  outcome : Option Outcome := none
  ended : Bool := false

namespace SpanBuilder

/-- The details that a span begins with. -/
def details (b : SpanBuilder) : SpanDetails where
  name := b.name
  kind := b.kind
  subtype := b.subtype
  action := b.action
  context := b.context
  labels := b.labels
  links := b.links
  sync := b.sync
  duration := b.duration

/-- The destination under which a span refused for the budget is counted: the one that its context
names, or, for a call, the one that follows from its kind. -/
def droppedResource (b : SpanBuilder) : Option String :=
  match ContextData.destination? b.context with
  | some resource => some resource
  | none => if b.leaf then some (ContextData.resourceFor b.context b.kind b.subtype) else none

/-- The stand-in for a span that is not recorded. -/
def standIn (b : SpanBuilder) (reason : DropReason) (now : Instant) : StandIn where
  reason := reason
  resource := if reason = .maxSpansExceeded then b.droppedResource else none
  start := b.start.getD now
  duration := b.duration

end SpanBuilder

namespace Span

/-- The span has ended. -/
def ended (s : Span) : Bool := s.details.isNone

/-- How long a span lasted that ends now. -/
def lasted (s : Span) (d : SpanDetails) (now : Instant) : Duration :=
  d.duration.getD (Instant.since now s.start)

/-- The context and the destination of a span that ends. The destination of a call is filled in. -/
def contextAtEnd (s : Span) (d : SpanDetails) : Fields × Option String :=
  if s.leaf then
    (ContextData.fillResource d.context d.kind d.subtype,
      some (ContextData.resourceFor d.context d.kind d.subtype))
  else (d.context, ContextData.destination? d.context)

end Span

end Telemetry
