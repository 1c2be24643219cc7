import Telemetry.Agent.Transactions

/-!
# Opening and ending spans

Spans are opened beneath the current span, or beneath the current transaction, or in a transaction
that is named. A scope makes its span current and ends it when it is left.

## Main definitions

* `Agent.beginSpanIn`, `Agent.beginSpan`, `Agent.endSpan`.
* `Agent.reviseSpan` and the changes made through it.
* `SpanScope`, `Agent.captureSpan`, `Agent.leaveScope`, `Agent.inSpan`.
-/

namespace Telemetry

/-- A transaction refused a span for its budget for the first time. -/
def Notice.maxSpansExceeded (id : SpanId) (limit : Nat) : Notice :=
  ⟨.debug, "Transaction.MaxSpansExceeded",
    [("transaction_id", .text id.toHex), ("max_spans", .count limit)]⟩

/-- A span was ended after it had ended. -/
def Notice.spanAlreadyEnded (id : SpanId) : Notice :=
  ⟨.debug, "Span.AlreadyEnded", [("span_id", .text id.toHex)]⟩

/-- A span that is current until its scope is left. -/
structure SpanScope where
  span : SpanHandle
  guard : Guard
  deriving DecidableEq

namespace Agent

/-- What a handle encloses, as the transaction sees it. -/
def enclosing (a : Agent) (t : TransactionRef) : Option SpanHandle → Enclosing
  | none => .transaction
  | some .detached => .standIn .notRecording
  | some (.standIn u i) =>
    match a.standIn? (.standIn u i) with
    | some s => .standIn s.reason
    | none => .transaction
  | some (.recording u i) =>
    match a.span? (.recording u i) with
    | some s => if s.leaf then .leaf else if u = t then .span i else .transaction
    | none => .transaction

/-- Opens a span in a transaction, beneath an enclosing span if there is one. -/
def beginSpanIn (a : Agent) (t : TransactionRef) (b : SpanBuilder) (parent : Option SpanHandle) :
    Agent × SpanHandle :=
  match a.transaction? t with
  | none => (a, .detached)
  | some tx =>
    match tx.admission (a.enclosing t parent) with
    | .ok parent =>
      let h := .recording t tx.spans.size
      let now := a.now
      let (a, id) := a.freshSpanId
      (a.modifyTransaction t (·.openSpan b parent id now), h)
    | .error reason =>
      let h := .standIn t tx.standIns.size
      let now := a.now
      let notices := if reason = .maxSpansExceeded && tx.dropped = 0 then
        [Notice.maxSpansExceeded tx.id tx.limits.maxSpans] else []
      ((a.modifyTransaction t (·.openStandIn b reason now)).noteAll notices, h)

/-- Opens a span beneath the current span, or else beneath the current transaction. -/
def beginSpan (a : Agent) (b : SpanBuilder) : Agent × SpanHandle :=
  match a.currentTransaction with
  | some t => a.beginSpanIn t b a.currentSpan
  | none => (a, .detached)

/-- Ends a span, with an outcome for the case that none was set. -/
def endSpan (a : Agent) (s : SpanHandle) (default : Outcome := .success) : Agent :=
  match s with
  | .detached => a
  | .standIn t i =>
    let now := a.now
    a.modifyTransaction t (·.endStandIn i default now)
  | .recording t i =>
    match a.transaction? t with
    | none => a
    | some tx =>
      match tx.spans[i]? with
      | none => a
      | some span =>
        if span.ended then a.note (.spanAlreadyEnded span.id)
        else
          let (a, frames) := match tx.framesWanted i a.now with
            | some limit => a.collectFrames limit
            | none => (a, [])
          let (tx, records) := tx.endSpan i default a.now frames
          (a.modifyTransaction t fun _ => tx).enqueueAll (records.map .span)

/-! ### Changing spans -/

/-- Changes a recorded span; nothing happens once it has ended. -/
def reviseSpan (a : Agent) (s : SpanHandle) (f : SpanDetails → SpanDetails) : Agent :=
  match s with
  | .recording t i => a.modifyTransaction t (·.reviseSpan i f)
  | _ => a

/-- Sets the outcome of a span, also of a stand-in. -/
def setSpanOutcome (a : Agent) (s : SpanHandle) (outcome : Outcome) : Agent :=
  match s with
  | .standIn t i =>
    a.modifyTransaction t (·.modifyStandIn i ({ · with outcome := some outcome }))
  | s => a.reviseSpan s ({ · with outcome := some outcome })

/-- Renames a span. -/
def setSpanName (a : Agent) (s : SpanHandle) (name : String) : Agent :=
  a.reviseSpan s ({ · with name })

/-- Adds data to the context of a span. -/
def addSpanContext (a : Agent) (s : SpanHandle) (key : String) (data : Fields) : Agent :=
  a.reviseSpan s fun d => { d with context := ContextData.merge key data d.context }

/-- Labels a span. -/
def labelSpan (a : Agent) (s : SpanHandle) (key : String) (value : Json) : Agent :=
  a.reviseSpan s fun d => { d with labels := Label.put key value d.labels }

/-- Links a span to a span of another trace. -/
def addSpanLink (a : Agent) (s : SpanHandle) (link : Link) : Agent :=
  a.reviseSpan s fun d => { d with links := d.links ++ [link] }

/-- The trace context of a call made by a span. A recorded span is marked as known to another
service; a stand-in passes on the context of its transaction. -/
def outboundOfSpan (a : Agent) : SpanHandle → Agent × Option TraceParent
  | .detached => (a, none)
  | .standIn t _ => (a, (a.transaction? t).map (·.outbound))
  | .recording t i =>
    match a.transaction? t with
    | none => (a, none)
    | some tx => (a.modifyTransaction t fun tx => (tx.outboundOf i).1, some (tx.outboundOf i).2)

/-! ### Scopes -/

/-- Opens a span and makes it current. -/
def captureSpan (a : Agent) (b : SpanBuilder) : Agent × SpanScope :=
  let (a, span) := a.beginSpan b
  let (a, guard) := a.attach (a.context.withSpan span)
  (a, ⟨span, guard⟩)

/-- Leaves a scope: its span ends, and what was current before is current again. -/
def leaveScope (a : Agent) (s : SpanScope) (default : Outcome := .success) : Agent :=
  (a.endSpan s.span default).dropGuard s.guard

/-- Runs an operation inside a span. -/
def inSpan {α : Type} (a : Agent) (b : SpanBuilder) (body : Agent → SpanHandle → Agent × α) :
    Agent × α :=
  let (a, scope) := a.captureSpan b
  let (a, result) := body a scope.span
  (a.leaveScope scope, result)

end Agent

end Telemetry
