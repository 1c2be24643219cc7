import Telemetry.Queue.Batch
import Telemetry.Queue.Memory

/-!
# Queues

Where finished events go. Events are discarded, or kept in memory, or exported in batches. Only the
batch queue can refuse a request.

## Main definitions

* `Queue`, `Queue.put`, `Queue.forceFlush`, `Queue.shutdown`.
-/

namespace Telemetry

/-- Where finished events go. -/
inductive Queue
  | discard
  | memory (q : MemoryQueue)
  | batch (q : BatchQueue)

namespace Queue

/-- Takes an event; `flush` asks for everything to be sent soon. -/
def put (e : Event) (flush : Bool) : Queue → Queue × List Notice
  | .discard => (.discard, [])
  | .memory q => (.memory (q.put e flush), [])
  | .batch q =>
    let (q, notices) := q.queue e flush
    (.batch q.settle, notices)

/-- Sends everything that was taken before. -/
def forceFlush : Queue → Queue × Except QueueError Unit
  | .batch q =>
    let (q, result) := q.forceFlush
    (.batch q, result)
  | q => (q, .ok ())

/-- Sends everything that was taken before, and releases the queue. -/
def shutdown : Queue → Queue × Except QueueError Unit × List Notice
  | .batch q =>
    let (q, result, notices) := q.shutdown
    (.batch q, result, notices)
  | q => (q, .ok (), [])

end Queue

end Telemetry
