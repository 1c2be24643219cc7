import Telemetry.Event.Record
import Telemetry.Notice
import Telemetry.Queue.BatchConfig

/-!
# The batch queue

Events go through a bounded channel to a worker, which redacts them, gathers them in a buffer, and
hands the buffer to an exporter when it is full, when an event asks for it, when the time since the
last export is up, when a client asks for it, and before it leaves.

The queue is a machine with small steps. Clients put messages into the channel (`queue`, `request`);
the worker takes one (`receive`), notices that its time is up (`expire`) or that nobody can send any
more (`disconnect`); each of these may begin an export, and the exporter's answer (`complete`) ends
it. What the worker does after an export is part of its state, so an export may take any time, and
clients go on meanwhile. `settle` runs the worker until it has nothing to do or is waiting for the
exporter.

An exporter is what it answers: the answers to come are given beforehand, and it keeps every batch
it was handed. While it is held it does not answer.

## Main definitions

* `QueueError`: why a request failed.
* `Exporter`, `ExportResult`, `Worker`, `BatchQueue`.
* `BatchQueue.queue`, `BatchQueue.forceFlush`, `BatchQueue.shutdown`: what clients call.
* `BatchQueue.receive`, `expire`, `disconnect`, `complete`: the worker's steps.
-/

namespace Telemetry

/-- Why a request to a queue failed. -/
inductive QueueError
  | alreadyShutdown
  | timedOut (after : Duration)
  | exportFailed (text : String)
  /-- There is no worker to send the request to. -/
  | unreachable
  /-- The worker was gone before it answered. -/
  | workerExited
  deriving DecidableEq, Repr

/-- The wording of a failure. -/
def QueueError.message : QueueError → String
  | .alreadyShutdown => "event queue already shut down"
  | .timedOut d => "timed out after " ++ d.text
  | .exportFailed text => "export failed: " ++ text
  | .unreachable => "failed to reach export thread: sending on a closed channel"
  | .workerExited => "export thread exited"

/-- How an export ends. -/
inductive ExportResult
  | delivered
  | failed (text : String)
  /-- The worker does not survive it. -/
  | crashed
  deriving DecidableEq, Repr

/-- A backend. `answers` are the results of the exports to come, after which every export succeeds;
`batches` are those that it was handed, and `delivered` the events of those that succeeded. -/
structure Exporter where
  answers : List ExportResult := []
  batches : Array (List Event) := #[]
  delivered : Array Event := #[]
  held : Bool := false
  closed : Bool := false

/-- What clients ask for and wait for. -/
inductive Request
  | flush
  | shutdown
  deriving DecidableEq, Repr

/-- What clients send to the worker. A request carries the number under which it is answered. -/
inductive Message
  | event (e : Event) (flush : Bool)
  | request (r : Request) (ticket : Nat)

/-- What the worker does once an export has ended. -/
inductive AfterExport
  | resume
  | answer (r : Request) (ticket : Nat)
  | leave
  deriving DecidableEq, Repr

/-- What the worker is doing. -/
inductive Worker
  | waiting
  | exporting (batch : List Event) (next : AfterExport)
  | gone

/-- A queue with its clients' side, its channel and its worker. `answers` are the results of
requests by ticket, and `tickets` is how many were given out. -/
structure BatchQueue where
  config : BatchConfig
  chain : ProcessorChain
  exporter : Exporter
  isShutdown : Bool := false
  dropped : Nat := 0
  channel : List Message := []
  tickets : Nat := 0
  buffer : List Event := []
  worker : Worker := .waiting
  answers : List (Nat × Except QueueError Unit) := []

/-- An event came after the queue was shut down. -/
def Notice.queueAfterShutdown (kind : String) : Notice :=
  ⟨.debug, "BatchEventQueue.QueueAfterShutdown", [("event_type", .text kind)]⟩

/-- The first event was dropped. -/
def Notice.eventDroppingStarted : Notice :=
  ⟨.warn, "BatchEventQueue.EventDroppingStarted",
    [("message",
      .text "Buffer full or export thread gone. Further drops are counted silently.")]⟩

/-- Events had been dropped by the time the queue was shut down. -/
def Notice.eventsDropped (n : Nat) : Notice :=
  ⟨.warn, "BatchEventQueue.EventsDropped", [("dropped_events", .count n)]⟩

namespace BatchQueue

/-- The worker is there to take messages. -/
def isOpen (q : BatchQueue) : Bool :=
  match q.worker with
  | .gone => false
  | _ => true

/-! ### The worker -/

/-- Records the answer to a request. -/
def reply (q : BatchQueue) (ticket : Nat) (result : Except QueueError Unit) : BatchQueue :=
  { q with answers := (ticket, result) :: q.answers }

/-- The worker leaves: the exporter is closed, and what is still in the channel is lost. -/
def close (q : BatchQueue) : BatchQueue :=
  { q with worker := .gone, channel := [], exporter := { q.exporter with closed := true } }

/-- What the worker does after an export with the given result. -/
def proceed (q : BatchQueue) (result : Except QueueError Unit) : AfterExport → BatchQueue
  | .resume => { q with worker := .waiting }
  | .answer .flush ticket => { q.reply ticket result with worker := .waiting }
  | .answer .shutdown ticket => (q.reply ticket result).close
  | .leave => q.close

/-- Hands the buffer to the exporter; an empty buffer counts as exported at once. -/
def beginExport (q : BatchQueue) (next : AfterExport) : BatchQueue :=
  if q.buffer.isEmpty then q.proceed (.ok ()) next
  else
    { q with
      buffer := []
      worker := .exporting q.buffer next
      exporter := { q.exporter with batches := q.exporter.batches.push q.buffer } }

/-- The exporter answers. -/
def complete (q : BatchQueue) (result : ExportResult) : BatchQueue :=
  match q.worker with
  | .exporting batch next =>
    match result with
    | .delivered =>
      let exporter := { q.exporter with delivered := q.exporter.delivered ++ batch.toArray }
      { q with exporter }.proceed (.ok ()) next
    | .failed text => q.proceed (.error (.exportFailed text)) next
    | .crashed => { q with worker := .gone, channel := [] }
  | _ => q

/-- The worker takes a message. `due` says that the time since the last export is up. -/
def receive (q : BatchQueue) (due : Bool) : BatchQueue :=
  match q.worker, q.channel with
  | .waiting, .event e flush :: rest =>
    let q := { q with channel := rest, buffer := q.buffer ++ [q.chain.process e] }
    if flush || q.config.maxBatchSize ≤ q.buffer.length || due then q.beginExport .resume else q
  | .waiting, .request r ticket :: rest => { q with channel := rest }.beginExport (.answer r ticket)
  | _, _ => q

/-- The time since the last export is up while the worker waits for messages. -/
def expire (q : BatchQueue) : BatchQueue :=
  match q.worker, q.channel with
  | .waiting, [] => q.beginExport .resume
  | _, _ => q

/-- The worker finds the channel empty and nobody left to send. -/
def disconnect (q : BatchQueue) : BatchQueue :=
  match q.worker, q.channel with
  | .waiting, [] => q.beginExport .leave
  | _, _ => q

/-- The exporter stops answering, or answers again. -/
def hold (q : BatchQueue) (held : Bool) : BatchQueue :=
  { q with exporter := { q.exporter with held } }

/-- The exporter gives the next of its answers. -/
def answerNext (q : BatchQueue) : BatchQueue :=
  let result := q.exporter.answers.headD .delivered
  { q with exporter := { q.exporter with answers := q.exporter.answers.drop 1 } }.complete result

/-- Runs the worker for at most so many steps, until it waits for a message or for a held
exporter. -/
def settleFor : Nat → BatchQueue → BatchQueue
  | 0, q => q
  | n + 1, q =>
    match q.worker with
    | .gone => q
    | .exporting _ _ => if q.exporter.held then q else settleFor n q.answerNext
    | .waiting =>
      if q.channel.isEmpty then q else settleFor n (q.receive (q.config.delay == 0))

/-- Runs the worker until it waits for a message or for a held exporter. Each message takes at most
two steps. -/
def settle (q : BatchQueue) : BatchQueue :=
  q.settleFor (2 * q.channel.length + 2)

/-! ### Clients -/

/-- Takes an event. It is dropped, and counted, if there is no room for it or no worker. -/
def queue (q : BatchQueue) (e : Event) (flush : Bool) : BatchQueue × List Notice :=
  if q.isShutdown then (q, [.queueAfterShutdown e.kind])
  else if q.isOpen && q.channel.length < q.config.maxQueueSize then
    ({ q with channel := q.channel ++ [.event e flush] }, [])
  else
    ({ q with dropped := q.dropped + 1 },
      if q.dropped = 0 then [.eventDroppingStarted] else [])

/-- Sends a request to the worker. Unlike an event it waits for room. -/
def request (q : BatchQueue) (r : Request) : BatchQueue :=
  { q with channel := q.channel ++ [.request r q.tickets], tickets := q.tickets + 1 }

/-- Sends a request and waits for its answer. -/
def await (q : BatchQueue) (r : Request) : BatchQueue × Except QueueError Unit :=
  if q.isOpen then
    let ticket := q.tickets
    let q := (q.request r).settle
    match q.answers.lookup ticket with
    | some result => (q, result)
    | none => (q, .error (if q.isOpen then .timedOut q.config.timeout else .workerExited))
  else (q, .error .unreachable)

/-- Exports everything that was taken before. -/
def forceFlush (q : BatchQueue) : BatchQueue × Except QueueError Unit :=
  if q.isShutdown then (q, .error .alreadyShutdown) else q.await .flush

/-- Exports everything that was taken before, and takes nothing any more. -/
def shutdown (q : BatchQueue) : BatchQueue × Except QueueError Unit × List Notice :=
  if q.isShutdown then (q, .error .alreadyShutdown, [])
  else
    let notices := if q.dropped = 0 then [] else [.eventsDropped q.dropped]
    let (q, result) := { q with isShutdown := true }.await .shutdown
    (q, result, notices)

end BatchQueue

end Telemetry
