import Telemetry.Agent.Basic
import Telemetry.Decimal.Layout

/-!
# Beginning and ending transactions

A transaction that has a caller continues the caller's trace or begins a new one, as the settings
say; one without a caller begins a new trace. A new trace is sampled by chance at the configured
rate, and carries the rate, or zero if it was not sampled, in its state. A continued trace keeps
what was decided where it began. A trace that was not continued is linked.

## Main definitions

* `TransactionBuilder`, `Agent.beginTransaction`.
* `Agent.reviseTransaction`: changing a transaction until it ends.
* `Agent.finishTransaction`, `Agent.endTransaction`.
* `Agent.ensureParentId`.
-/

namespace Telemetry

/-- The description of a transaction to begin. -/
structure TransactionBuilder where
  kind : String
  caller : Option TraceParent := none
  links : List Link := []
  /-- When it began on the wall clock, if that was not just now. -/
  start : Option Instant := none
  /-- It becomes the current transaction. -/
  activate : Bool := true

/-- A new trace was begun in the place of a caller's. -/
def Notice.traceRestarted (inbound : TraceId) : Notice :=
  ⟨.debug, "Tracer.TraceRestarted", [("inbound_trace_id", .text inbound.toHex)]⟩

/-- There is no current transaction to end. -/
def Notice.noCurrentTransaction : Notice :=
  ⟨.debug, "Tracer.NoCurrentTransaction", []⟩

/-- A transaction was changed after it had ended. -/
def Notice.modifiedAfterEnd (id : SpanId) : Notice :=
  ⟨.debug, "Transaction.ModifiedAfterEnd", [("transaction_id", .text id.toHex)]⟩

/-- A transaction was ended after it had ended. -/
def Notice.transactionAlreadyEnded (id : SpanId) : Notice :=
  ⟨.warn, "Transaction.AlreadyEnded", [("transaction_id", .text id.toHex)]⟩

/-- The root of a trace was given a caller. -/
def Notice.parentIdCreated (id parent : SpanId) : Notice :=
  ⟨.debug, "Transaction.ParentIdCreated",
    [("transaction_id", .text id.toHex), ("parent_id", .text parent.toHex)]⟩

/-- The caller's trace is continued. -/
def Continuation.continues (c : Continuation) (caller : TraceParent) : Bool :=
  match c with
  | .join => true
  | .restart => false
  | .restartExternal => !caller.entries.isEmpty

namespace Agent

/-- Begins a trace whose first transaction has the given identifier; returns its context and the
rate at which it was sampled. -/
def newTrace (a : Agent) (id : SpanId) : Agent × TraceParent × Float :=
  let rate := roundRate a.config.current.sampleRate
  let (sampled, sampler) := a.sampler.decide rate
  let a := { a with sampler }
  let rate := if sampled then rate else 0
  let (a, traceId) := a.freshTraceId
  let (tp, notices) :=
    (TraceParent.create traceId id sampled).addEntry Vendor.sampleRateKey (plainText rate)
  (a.noteAll notices, tp, rate)

/-- The trace context of a transaction with the given identifier, its sample rate, and its links. -/
def traceFor (a : Agent) (b : TransactionBuilder) (id : SpanId) :
    Agent × TraceParent × Option Float × List Link :=
  match b.caller with
  | none =>
    let (a, tp, rate) := a.newTrace id
    (a, tp, some rate, b.links)
  | some caller =>
    if a.config.current.continuation.continues caller then
      let (rate, notices) := caller.sampleRate
      (a.noteAll notices, caller, rate, b.links)
    else
      let (a, tp, rate) := (a.note (.traceRestarted caller.traceId)).newTrace id
      (a, tp, some rate, b.links ++ [caller.link])

/-- Begins a transaction. -/
def beginTransaction (a : Agent) (b : TransactionBuilder) : Agent × TransactionRef :=
  let limits := a.config.current.limits
  let (a, id) := a.freshSpanId
  let (a, tp, rate, links) := a.traceFor b id
  let t := Transaction.create id b.kind tp rate links b.start limits a.now a.wall
  let ref := a.transactions.size
  let a := { a with transactions := a.transactions.push t }
  (if b.activate then (a.setTransaction (some ref)).setSpan none else a, ref)

/-- Changes a transaction; if it has ended nothing happens but a notice. -/
def reviseTransaction (a : Agent) (t : TransactionRef) (f : Details → Details) : Agent :=
  match a.transaction? t with
  | none => a
  | some tx =>
    if tx.ended then a.note (.modifiedAfterEnd tx.id) else a.modifyTransaction t (·.revise f)

/-- Renames a transaction. -/
def setName (a : Agent) (t : TransactionRef) (name : String) : Agent :=
  a.reviseTransaction t ({ · with name })

/-- Sets the result of a transaction. -/
def setResult (a : Agent) (t : TransactionRef) (result : String) : Agent :=
  a.reviseTransaction t ({ · with result := some result })

/-- Sets the outcome of a transaction. -/
def setOutcome (a : Agent) (t : TransactionRef) (outcome : Outcome) : Agent :=
  a.reviseTransaction t ({ · with outcome := some outcome })

/-- Adds data to the context of a transaction. -/
def addContext (a : Agent) (t : TransactionRef) (key : String) (data : Fields) : Agent :=
  a.reviseTransaction t fun d => { d with context := ContextData.merge key data d.context }

/-- Labels a transaction. -/
def label (a : Agent) (t : TransactionRef) (key : String) (value : Json) : Agent :=
  a.reviseTransaction t fun d => { d with labels := Label.put key value d.labels }

/-- Links a transaction to a span of another trace. -/
def addLink (a : Agent) (t : TransactionRef) (link : Link) : Agent :=
  a.reviseTransaction t fun d => { d with links := d.links ++ [link] }

/-- The identifier of the caller of a transaction. The root of a trace is given one, for a client
that will report itself as the root. -/
def ensureParentId (a : Agent) (t : TransactionRef) : Agent × SpanId :=
  match a.transaction? t with
  | none => (a, default)
  | some tx =>
    if tx.isRoot then
      let (a, parent) := a.freshSpanId
      ((a.modifyTransaction t (·.withCaller parent)).note (.parentIdCreated tx.id parent), parent)
    else (a, tx.traceParent.spanId)

/-- Ends a transaction, with a result and a name in the place of the current ones where they are
given. Returns whether it had not ended before. -/
def finishTransaction (a : Agent) (t : TransactionRef) (result name : Option String) :
    Agent × Bool :=
  match a.transaction? t with
  | none => (a, false)
  | some tx =>
    if tx.ended then (a.note (.transactionAlreadyEnded tx.id), false)
    else
      let (tx, events) := tx.finish result name a.now
      ((a.modifyTransaction t fun _ => tx).enqueueAll events, true)

/-- Ends the current transaction, after which nothing is current; returns the transaction. -/
def endTransaction (a : Agent) (result name : Option String) : Agent × Option TransactionRef :=
  match a.currentTransaction with
  | none => (a.note .noCurrentTransaction, none)
  | some t => (((a.setTransaction none).finishTransaction t result name).1, some t)

end Agent

end Telemetry
