import Telemetry.Config.Environment
import Telemetry.ContextStack
import Telemetry.Queue.Basic
import Telemetry.Random.Sampler
import Telemetry.Trace.IdSource
import Telemetry.Trace.Propagation
import Telemetry.Transaction.Lifecycle

/-!
# The agent

The whole state of the agent in one process, as seen from the thread that is running: settings,
sources of identifiers and of chance, the clock, all transactions with their spans, the contexts of
the thread, the queue, and what was reported about the agent itself. Every operation of
instrumentation is a function from one state to the next; none of them fails.

Transactions are named by their place. A transaction never goes away, so a name never goes stale.

## Main definitions

* `Agent`.
* `Agent.note`, `Agent.enqueue`, `Agent.collectFrames`, `Agent.freshSpanId`, `Agent.freshTraceId`.
* `Agent.currentTransaction`, `Agent.currentSpan`: what is current.
* `Agent.onFreshThread`: an operation on a thread of its own.
-/

namespace Telemetry

/-- The state of the agent. -/
structure Agent where
  config : ConfigHandle
  ids : IdSource := .counting 1
  sampler : Sampler := ⟨0, 0⟩
  queue : Queue := .discard
  /-- The call stack, innermost frame first, as far as it is known. -/
  callStack : List Frame := []
  /-- The time on the monotonic clock. -/
  now : Instant := 0
  /-- The time on the wall clock when the monotonic clock was at its origin. -/
  epoch : Instant := 0
  transactions : Array Transaction := #[]
  contexts : ContextStack := {}
  notices : Array Notice := #[]
  /-- The limits with which frames were asked for. -/
  frameRequests : Array Nat := #[]

namespace Agent

/-- The time on the wall clock. -/
def wall (a : Agent) : Instant := a.epoch + a.now

/-- Time passes. -/
def advance (a : Agent) (d : Duration) : Agent := { a with now := a.now + d }

/-- Reports something about the agent. -/
def note (a : Agent) (n : Notice) : Agent := { a with notices := a.notices.push n }

/-- Reports several things in order. -/
def noteAll (a : Agent) (ns : List Notice) : Agent := ns.foldl note a

/-- Hands an event to the queue. -/
def enqueue (a : Agent) (e : Event) (flush : Bool) : Agent :=
  let (queue, notices) := a.queue.put e flush
  { a with queue }.noteAll notices

/-- Hands events to the queue in order. -/
def enqueueAll (a : Agent) (events : List Event) : Agent :=
  events.foldl (·.enqueue · false) a

/-- The first frames of the call stack. -/
def collectFrames (a : Agent) (limit : Nat) : Agent × List Frame :=
  ({ a with frameRequests := a.frameRequests.push limit }, a.callStack.take limit)

/-- Takes an identifier for a transaction or a span. -/
def freshSpanId (a : Agent) : Agent × SpanId :=
  let (id, ids) := a.ids.spanId
  ({ a with ids }, id)

/-- Takes an identifier for a trace or an error. -/
def freshTraceId (a : Agent) : Agent × TraceId :=
  let (id, ids) := a.ids.traceId
  ({ a with ids }, id)

/-- Some duration was longer than a clock can represent. -/
def overflowed (a : Agent) : Bool := a.transactions.any (·.overflowed)

/-! ### Transactions and spans by name -/

/-- The transaction at a place. -/
def transaction? (a : Agent) (t : TransactionRef) : Option Transaction := a.transactions[t]?

/-- The transaction at a place has ended. -/
def hasEnded (a : Agent) (t : TransactionRef) : Bool :=
  match a.transaction? t with
  | some t => t.ended
  | none => false

/-- Changes the transaction at a place. -/
def modifyTransaction (a : Agent) (t : TransactionRef) (f : Transaction → Transaction) : Agent :=
  { a with transactions := a.transactions.modify t f }

/-- The recorded span that a handle stands for. -/
def span? (a : Agent) : SpanHandle → Option Span
  | .recording t i => (a.transaction? t).bind (·.spans[i]?)
  | _ => none

/-- The stand-in that a handle stands for. -/
def standIn? (a : Agent) : SpanHandle → Option StandIn
  | .standIn t i => (a.transaction? t).bind (·.standIns[i]?)
  | _ => none

/-- The identifier of a recorded span. -/
def spanId? (a : Agent) (s : SpanHandle) : Option SpanId := (a.span? s).map (·.id)

/-- The identifier that a recorded span names as its parent. -/
def parentId? (a : Agent) (h : SpanHandle) : Option SpanId :=
  (a.span? h).bind fun s => (h.transaction?.bind a.transaction?).map (·.parentId s)

/-- Why the span of a handle is not recorded, if it is not. -/
def dropReason (a : Agent) (h : SpanHandle) : DropReason :=
  ((a.standIn? h).map (·.reason)).getD .notRecording

/-! ### What is current -/

/-- The transaction of a context, unless it has ended. -/
def transactionOf (a : Agent) (c : Context) : Option TransactionRef :=
  c.transaction.filter fun t => !a.hasEnded t

/-- The span of a context, unless the transaction of the context has ended. -/
def spanOf (a : Agent) (c : Context) : Option SpanHandle :=
  match c.transaction with
  | some t => if a.hasEnded t then none else c.span
  | none => c.span

/-- The current context. -/
def context (a : Agent) : Context := a.contexts.current

/-- The current transaction. -/
def currentTransaction (a : Agent) : Option TransactionRef := a.transactionOf a.context

/-- The current span, which may be a stand-in. -/
def currentSpan (a : Agent) : Option SpanHandle := a.spanOf a.context

/-- Takes the contexts of the thread out of the state, so that nobody else holds them while they
change. -/
def takeContexts (a : Agent) : ContextStack × Agent :=
  (a.contexts, { a with contexts := {} })

/-- Makes a context current. -/
def attach (a : Agent) (c : Context) : Agent × Guard :=
  let (contexts, a) := a.takeContexts
  let (contexts, guard, notices) := contexts.attach c
  ({ a with contexts }.noteAll notices, guard)

/-- Restores what was current before the context of a guard was attached. -/
def dropGuard (a : Agent) (g : Guard) : Agent :=
  let (contexts, a) := a.takeContexts
  let (contexts, notices) := contexts.drop g
  { a with contexts }.noteAll notices

/-- Replaces the current transaction. -/
def setTransaction (a : Agent) (t : Option TransactionRef) : Agent :=
  { a with contexts := a.contexts.setTransaction t }

/-- Replaces the current span. -/
def setSpan (a : Agent) (s : Option SpanHandle) : Agent :=
  { a with contexts := a.contexts.setSpan s }

/-- Runs an operation on a thread of its own, where nothing is current at first. -/
def onFreshThread {α : Type} (a : Agent) (body : Agent → Agent × α) : Agent × α :=
  let (a', result) := body { a with contexts := {} }
  ({ a' with contexts := a.contexts }, result)

/-! ### Settings and the queue -/

/-- Changes the settings for the transactions that begin later. -/
def updateConfig (a : Agent) (f : Config → Config) : Agent :=
  { a with config := a.config.update f }

/-- Has the queue send everything it holds. -/
def forceFlush (a : Agent) : Agent × Except QueueError Unit :=
  let (queue, result) := a.queue.forceFlush
  ({ a with queue }, result)

/-- Shuts the queue down. -/
def shutdown (a : Agent) : Agent × Except QueueError Unit :=
  let (queue, result, notices) := a.queue.shutdown
  ({ a with queue }.noteAll notices, result)

end Agent

end Telemetry
