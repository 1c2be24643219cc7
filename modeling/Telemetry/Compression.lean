import Telemetry.Event.Record

/-!
# Span compression

Runs of similar calls to one destination are reported as one span. Whoever owns spans (a
transaction, or a span for the spans beneath it) has a buffer for the one that ended last. When the
next one ends it is merged into the buffered one if they are alike; otherwise the buffered one is
ready to be reported and the new one takes its place. Spans that cannot be merged pass through,
behind the buffered one. When the owner ends its buffer is closed, and spans that end later pass
through at once.

Only calls that succeeded, that name a destination and that no other service refers to are merged.
The first two are alike exactly if they agree in everything and both are short enough, and alike in
kind if they agree in kind and destination and both are short enough by the limit for that. A
composite stays exact only while exact matches join it; when one of the same kind joins, it is
renamed after the destination and goes on as a composite of that kind.

Sums are exact. `FinishedSpan.absorbOverflows` says when a clock could not represent one.

## Main definitions

* `FinishedSpan`: a span that has ended but may not have been reported.
* `FinishedSpan.strategyFor`: whether and how another span is merged into it.
* `FinishedSpan.absorb`: the merged span.
* `CompressionBuffer.offer`, `CompressionBuffer.close`.
-/

namespace Telemetry

/-- Limits on merging. -/
structure CompressionSettings where
  enabled : Bool
  exactMatchMax : Duration
  sameKindMax : Duration
  deriving DecidableEq, Repr

/-- A span that has ended. Its record does not carry the composite yet. -/
structure FinishedSpan where
  record : SpanRecord
  leaf : Bool
  propagated : Bool
  resource : Option String
  composite : Option Composite := none

namespace FinishedSpan

/-- The span may be merged with others. -/
def eligible (s : FinishedSpan) : Bool :=
  s.leaf && !s.propagated && s.record.outcome = .success && s.resource.isSome

/-- The span may be left out if it is short: nobody refers to it. -/
def discardable (s : FinishedSpan) : Bool :=
  s.leaf && !s.propagated && s.record.outcome = .success

/-- How many spans this one stands for. -/
def count (s : FinishedSpan) : Nat :=
  match s.composite with
  | some c => c.count
  | none => 1

/-- How long the spans took that this one stands for. -/
def total (s : FinishedSpan) : Duration :=
  match s.composite with
  | some c => c.sum
  | none => s.record.duration

/-- Both are calls of one kind to one destination. -/
def isSameKind (s t : FinishedSpan) : Bool :=
  s.record.kind = t.record.kind && s.record.subtype = t.record.subtype && s.resource.isSome &&
    s.resource = t.resource

/-- Both are the same call. -/
def isExactMatch (s t : FinishedSpan) : Bool :=
  s.isSameKind t && s.record.name = t.record.name && s.record.action = t.record.action

/-- How the sibling is merged into the span, if it is. -/
def strategyFor (settings : CompressionSettings) (s sibling : FinishedSpan) :
    Option CompressionStrategy :=
  match s.composite with
  | none =>
    if s.isExactMatch sibling && s.record.duration ≤ settings.exactMatchMax &&
        sibling.record.duration ≤ settings.exactMatchMax then some .exactMatch
    else if s.isSameKind sibling && s.record.duration ≤ settings.sameKindMax &&
        sibling.record.duration ≤ settings.sameKindMax then some .sameKind
    else none
  | some c =>
    if c.strategy = .exactMatch && s.isExactMatch sibling &&
        sibling.record.duration ≤ settings.exactMatchMax then some .exactMatch
    else if s.isSameKind sibling && sibling.record.duration ≤ settings.sameKindMax then
      some .sameKind
    else none

/-- When the span ended, from the start of the transaction. -/
def finish (s : FinishedSpan) : Duration :=
  s.record.start + s.record.duration

/-- The name of a composite of calls of one kind. -/
def kindName (s : FinishedSpan) : String :=
  match s.resource with
  | some resource => "Calls to " ++ resource
  | none => s.record.name

/-- The span with the sibling merged into it. It lasts at least until the sibling ended. -/
def absorb (s sibling : FinishedSpan) (strategy : CompressionStrategy) : FinishedSpan :=
  { s with
    composite := some ⟨strategy, s.count + 1, s.total + sibling.record.duration⟩
    record := { s.record with
      name := if strategy = .sameKind then s.kindName else s.record.name
      duration := max s.record.duration (sibling.finish - s.record.start) } }

/-- Merging computes a duration longer than a clock can represent. -/
def absorbOverflows (s sibling : FinishedSpan) : Bool :=
  s.total + sibling.record.duration > Duration.longest || sibling.finish > Duration.longest

/-- The record to report. -/
def toRecord (s : FinishedSpan) : SpanRecord :=
  { s.record with composite := s.composite.filter fun c => 2 ≤ c.count }

end FinishedSpan

/-- The span that ended last, if it may still be merged with others. -/
structure CompressionBuffer where
  slot : Option FinishedSpan := none
  closed : Bool := false

namespace CompressionBuffer

/-- The buffer after a span ended, and the spans that are ready to be reported, in order. -/
def offer (settings : CompressionSettings) (b : CompressionBuffer) (child : FinishedSpan) :
    CompressionBuffer × List FinishedSpan :=
  if b.closed then (b, [child])
  else if !settings.enabled || !child.eligible then
    ({ b with slot := none }, b.slot.toList ++ [child])
  else
    match b.slot with
    | none => ({ b with slot := some child }, [])
    | some s =>
      match s.strategyFor settings child with
      | some strategy => ({ b with slot := some (s.absorb child strategy) }, [])
      | none => ({ b with slot := some child }, [s])

/-- Offering the span computes a duration longer than a clock can represent. -/
def offerOverflows (settings : CompressionSettings) (b : CompressionBuffer)
    (child : FinishedSpan) : Bool :=
  !b.closed && settings.enabled && child.eligible &&
    match b.slot with
    | some s => (s.strategyFor settings child).isSome && s.absorbOverflows child
    | none => false

/-- The closed buffer, and the span that it held. -/
def close (b : CompressionBuffer) : CompressionBuffer × Option FinishedSpan :=
  (⟨none, true⟩, b.slot)

end CompressionBuffer

end Telemetry
