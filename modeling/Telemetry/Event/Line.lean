import Telemetry.Event.Record
import Telemetry.Json.Writer

/-!
# Event lines

An event leaves the process as one line of JSON: an object with a single field, named after the kind
of event, whose value holds the record. Fields that a record may lack are left out when it lacks
them, and so are empty lists. The fields of a record come in a fixed order, those of context data in
the order of their keys.

Durations are written as milliseconds with a fraction. The sums of dropped spans are whole
microseconds in a word of 64 bits.

## Main definitions

* `Event.toJson`: the event as a value.
* `Event.line`: its line.
-/

namespace Telemetry

open Json

/-- A field that is there only if its value is. -/
def optionalField {α : Type} (name : String) (toJson : α → Json) (value : Option α) :
    List (String × Json) :=
  (value.map fun v => (name, toJson v)).toList

/-- A field that is there only if its list is not empty. -/
def listField {α : Type} (name : String) (toJson : α → Json) (items : List α) :
    List (String × Json) :=
  if items.isEmpty then [] else [(name, .arr (items.map toJson))]

/-- A count. -/
def Json.ofNat (n : Nat) : Json := .num (.int n)

/-- A number with a fraction. -/
def Json.ofFloat (x : Float) : Json := .num (.float x)

/-- Milliseconds with a fraction. -/
def Duration.toJson (d : Duration) : Json := .ofFloat d.millis

/-- An identifier of a trace. -/
def TraceId.toJson (id : TraceId) : Json := .str id.toHex

/-- An identifier of a transaction or span. -/
def SpanId.toJson (id : SpanId) : Json := .str id.toHex

/-- An outcome. -/
def Outcome.toJson (o : Outcome) : Json := .str o.name

/-- A link. -/
def Link.toJson (l : Link) : Json :=
  .obj [("trace_id", l.traceId.toJson), ("span_id", l.spanId.toJson)]

/-- A frame. -/
def Frame.toJson (f : Frame) : Json :=
  .obj (("function", .str f.function) ::
    optionalField "filename" .str f.filename ++
    optionalField "abs_path" .str f.absPath ++
    optionalField "lineno" .ofNat f.line ++
    [("library_frame", .bool f.library)])

/-- The name of a strategy. -/
def CompressionStrategy.name : CompressionStrategy → String
  | .exactMatch => "exact_match"
  | .sameKind => "same_kind"

/-- What a composite adds to a span. -/
def Composite.toJson (c : Composite) : Json :=
  .obj [("compression_strategy", .str c.strategy.name), ("count", .ofNat c.count),
    ("sum", c.sum.toJson)]

/-- How many spans were sent and dropped. -/
def SpanCount.toJson (c : SpanCount) : Json :=
  .obj [("started", .ofNat c.started), ("dropped", .ofNat c.dropped)]

/-- Dropped spans of one destination and outcome. -/
def DroppedSpanStat.toJson (s : DroppedSpanStat) : Json :=
  .obj [("destination_service_resource", .str s.resource), ("outcome", s.outcome.toJson),
    ("duration", .obj [("count", .ofNat s.count),
      ("sum", .obj [("us", .ofNat (s.sum.micros % UInt64.size))])])]

/-- A transaction. -/
def TransactionRecord.toJson (r : TransactionRecord) : Json :=
  .obj ([("id", r.id.toJson), ("trace_id", r.traceId.toJson)] ++
    optionalField "parent_id" SpanId.toJson r.parentId ++
    [("name", .str r.name), ("type", .str r.kind)] ++
    optionalField "result" .str r.result ++
    [("outcome", r.outcome.toJson), ("timestamp", .ofNat r.timestamp),
      ("duration", r.duration.toJson), ("sampled", .bool r.sampled)] ++
    optionalField "sample_rate" .ofFloat r.sampleRate ++
    [("span_count", r.spanCount.toJson)] ++
    listField "dropped_spans_stats" DroppedSpanStat.toJson r.droppedSpanStats ++
    listField "links" Link.toJson r.links ++
    optionalField "context" .obj r.context)

/-- A span. -/
def SpanRecord.toJson (r : SpanRecord) : Json :=
  .obj ([("id", r.id.toJson), ("transaction_id", r.transactionId.toJson),
      ("parent_id", r.parentId.toJson), ("trace_id", r.traceId.toJson), ("name", .str r.name),
      ("type", .str r.kind)] ++
    optionalField "subtype" .str r.subtype ++
    optionalField "action" .str r.action ++
    [("start", r.start.toJson), ("timestamp", .ofNat r.timestamp),
      ("duration", r.duration.toJson), ("outcome", r.outcome.toJson)] ++
    optionalField "sync" .bool r.sync ++
    optionalField "sample_rate" .ofFloat r.sampleRate ++
    optionalField "context" .obj r.context ++
    listField "stacktrace" Frame.toJson r.stacktrace ++
    optionalField "composite" Composite.toJson r.composite ++
    listField "links" Link.toJson r.links)

mutual

/-- An error with its causes. -/
def ExceptionRecord.toJson : ExceptionRecord → Json
  | .mk message kind handled stacktrace cause =>
    .obj ([("message", .str message), ("type", .str kind), ("handled", .bool handled)] ++
      listField "stacktrace" Frame.toJson stacktrace ++
      listField "cause" id (ExceptionRecord.toJsons cause))

/-- Several errors with their causes. -/
def ExceptionRecord.toJsons : List ExceptionRecord → List Json
  | [] => []
  | r :: rest => r.toJson :: ExceptionRecord.toJsons rest

end

/-- A message. -/
def LogRecord.toJson (r : LogRecord) : Json :=
  .obj ([("message", .str r.message), ("level", .str r.level.name)] ++
    listField "stacktrace" Frame.toJson r.stacktrace)

/-- The transaction that an error happened in. -/
def TransactionSummary.toJson (s : TransactionSummary) : Json :=
  .obj [("sampled", .bool s.sampled), ("type", .str s.kind), ("name", .str s.name)]

/-- A captured error or message. -/
def ErrorRecord.toJson (r : ErrorRecord) : Json :=
  .obj ([("id", r.id.toJson), ("timestamp", .ofNat r.timestamp)] ++
    optionalField "trace_id" TraceId.toJson r.traceId ++
    optionalField "transaction_id" SpanId.toJson r.transactionId ++
    optionalField "parent_id" SpanId.toJson r.parentId ++
    optionalField "culprit" .str r.culprit ++
    optionalField "exception" ExceptionRecord.toJson r.exception ++
    optionalField "log" LogRecord.toJson r.log ++
    optionalField "transaction" TransactionSummary.toJson r.transaction ++
    optionalField "context" .obj r.context)

namespace Event

/-- The record of the event. -/
def body : Event → Json
  | .transaction r => r.toJson
  | .span r => r.toJson
  | .error r => r.toJson

/-- The event as a value. -/
def toJson (e : Event) : Json :=
  .obj [(e.kind, e.body)]

/-- The line of the event, without an end of line. -/
def line (e : Event) : String :=
  e.toJson.compact

end Event

end Telemetry
