import Telemetry.Event.Record

/-!
# Events kept in memory

A queue that keeps what it is given, in order, each event with its flush hint. Events are redacted
before they are kept.

## Main definitions

* `MemoryQueue`, `MemoryQueue.put`, `MemoryQueue.clear`.
* `MemoryQueue.transactions`, `MemoryQueue.spans`, `MemoryQueue.errors`: the records of one kind.
-/

namespace Telemetry

/-- Events in the order in which they came, with their flush hints. -/
structure MemoryQueue where
  chain : ProcessorChain := .empty
  stored : Array (Event × Bool) := #[]

namespace MemoryQueue

/-- Takes an event; `flush` asks for everything to be sent soon. -/
def put (q : MemoryQueue) (e : Event) (flush : Bool) : MemoryQueue :=
  { q with stored := q.stored.push (q.chain.process e, flush) }

/-- Forgets all events. -/
def clear (q : MemoryQueue) : MemoryQueue := { q with stored := #[] }

/-- The events, oldest first. -/
def events (q : MemoryQueue) : List Event := q.stored.toList.map (·.1)

/-- The transactions, oldest first. -/
def transactions (q : MemoryQueue) : List TransactionRecord :=
  q.events.filterMap fun
    | .transaction r => some r
    | _ => none

/-- The spans, in the order in which they were reported. -/
def spans (q : MemoryQueue) : List SpanRecord :=
  q.events.filterMap fun
    | .span r => some r
    | _ => none

/-- The captured errors and messages, oldest first. -/
def errors (q : MemoryQueue) : List ErrorRecord :=
  q.events.filterMap fun
    | .error r => some r
    | _ => none

@[simp]
theorem events_clear (q : MemoryQueue) : q.clear.events = [] := rfl

@[simp]
theorem events_put (q : MemoryQueue) (e : Event) (flush : Bool) :
    (q.put e flush).events = q.events ++ [q.chain.process e] := by
  simp [events, put]

end MemoryQueue

end Telemetry
