import Telemetry.Agent.Spans
import Telemetry.Text.Alphanumeric

/-!
# Captured errors and messages

An error is reported with the chain of its causes, of which so many are kept. Inside a transaction
the record names the transaction and the current span, and carries the context of the transaction if
it is sampled. An error that was not handled asks the queue to send everything soon.

The kind of an error is the name of its type, without path and parameters. Of a cause only its debug
text is known, which usually begins with that name.

## Main definitions

* `Cause`, `causesOf`: the chain of causes.
* `Agent.captureError`, `Agent.captureMessage`.
-/

namespace Telemetry

open Text

/-- A cause of an error: its message and its debug text. -/
structure Cause where
  message : String
  debug : String
  deriving DecidableEq, Repr

/-- So many causes of an error are kept. -/
def maxCauses : Nat := 32

/-- The first causes of a chain, which may be endless, from a place on. -/
def causesFrom (chain : Nat → Option Cause) : (limit place : Nat) → List Cause
  | 0, _ => []
  | limit + 1, place =>
    match chain place with
    | some cause => cause :: causesFrom chain limit (place + 1)
    | none => []

/-- The causes of a chain that are kept. -/
def causesOf (chain : Nat → Option Cause) : List Cause :=
  causesFrom chain maxCauses 0

/-- The last part of a path of names with `::` between them. -/
def lastSegment (path : List Char) : List Char :=
  (splitText [':', ':'] path).getLastD []

/-- The name of a type without its path and its parameters. -/
def shortTypeName (name : String) : String :=
  String.ofList (lastSegment (name.toList.takeWhile (· != '<')))

/-- The name with which a debug text begins. -/
def debugTypeName (debug : String) : String :=
  match debug.toList.takeWhile fun c => isAlphanumeric c || c == '_' with
  | [] => "Error"
  | name => String.ofList name

/-- The chain of causes as nested records, put together from the innermost one outwards. -/
def nestCauses (handled : Bool) (causes : List Cause) : List ExceptionRecord :=
  causes.reverse.foldl
    (fun inner c => [.mk c.message (debugTypeName c.debug) handled [] inner]) []

/-- An error or a message was captured. -/
def Notice.errorCaptured (id : TraceId) (flush : Bool) : Notice :=
  ⟨.debug, "Tracer.ErrorCaptured", [("error_id", .text id.toHex), ("flush", .flag flush)]⟩

/-- The record with the transaction and the span that it happened in. -/
def ErrorRecord.within (r : ErrorRecord) (t : Transaction) (span : Option SpanId) : ErrorRecord :=
  { r with
    traceId := some t.traceId
    transactionId := some t.id
    parentId := some (span.getD t.id)
    transaction := some ⟨t.sampled, t.kind, t.details.name⟩
    context := if t.sampled then ContextData.report t.details.fullContext else none }

namespace Agent

/-- Queues a record under a new identifier, tied to what is current. -/
def queueError (a : Agent) (culprit : Option String) (exception : Option ExceptionRecord)
    (log : Option LogRecord) (flush : Bool) : Agent × TraceId :=
  let (a, id) := a.freshTraceId
  let record : ErrorRecord := { id, timestamp := a.wall.micros, culprit, exception, log }
  let record := match a.currentTransaction.bind a.transaction? with
    | some t => record.within t (a.currentSpan.bind a.spanId?)
    | none => record
  ((a.note (.errorCaptured id flush)).enqueue (.error record) flush, id)

/-- Reports an error of a type, with the chain of its causes. Returns the identifier of the
record. -/
def captureError (a : Agent) (message typeName : String) (chain : Nat → Option Cause)
    (handled : Bool) : Agent × TraceId :=
  let (a, frames) := a.collectFrames a.config.current.stackTraceLimit
  let exception := ExceptionRecord.mk message (shortTypeName typeName) handled frames
    (nestCauses handled (causesOf chain))
  a.queueError (culprit frames) (some exception) none (!handled)

/-- Reports a message. Returns the identifier of the record. -/
def captureMessage (a : Agent) (message : String) (level : Severity) : Agent × TraceId :=
  let (a, frames) := a.collectFrames a.config.current.stackTraceLimit
  a.queueError (culprit frames) none (some ⟨message, level, frames⟩) false

end Agent

end Telemetry
