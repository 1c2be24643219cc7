import Telemetry.Proofs.Json.Shape

/-!
# The fields of events

One event is one line, and the line is one object with one field, named after the kind of event.
Whoever reads it finds the record there, with every field that a record always has, with those that
it may lack exactly when it does not lack them, and with the lists that are not empty; and in each
of them what the record holds. The same is true of everything inside it: frames, links, statistics,
and causes however deep.

## Main definitions

* `Event.shape`: which fields the record of an event has and what is in them, down to the last one.

## Main results

* `TransactionRecord.fits_readBack`, `SpanRecord.fits_readBack`, `ErrorRecord.fits_readBack`: the
  fields that a record is read with.
* `ExceptionRecord.fits_readBack`: those of an error, with its causes.
* `Event.line_shows`: what is read from the line of an event.
-/

namespace Telemetry

open Json (Shape)
open Json.Shape (Writes)

/-! ### Tables -/

/-- The fields of a link. -/
def Link.shape (l : Link) : Shape :=
  .object [
    ("trace_id", some (.read l.traceId.toJson)),
    ("span_id", some (.read l.spanId.toJson))]

/-- The fields of a frame. -/
def Frame.shape (f : Frame) : Shape :=
  .object [
    ("function", some (.read (.str f.function))),
    ("filename", Shape.read? .str f.filename),
    ("abs_path", Shape.read? .str f.absPath),
    ("lineno", Shape.read? .ofNat f.line),
    ("library_frame", some (.read (.bool f.library)))]

/-- The fields of a composite. -/
def Composite.shape (c : Composite) : Shape :=
  .object [
    ("compression_strategy", some (.read (.str c.strategy.name))),
    ("count", some (.read (.ofNat c.count))),
    ("sum", some (.read c.sum.toJson))]

/-- The fields of the counts of spans. -/
def SpanCount.shape (c : SpanCount) : Shape :=
  .object [
    ("started", some (.read (.ofNat c.started))),
    ("dropped", some (.read (.ofNat c.dropped)))]

/-- The fields of what is said about dropped spans. -/
def DroppedSpanStat.shape (s : DroppedSpanStat) : Shape :=
  .object [
    ("destination_service_resource", some (.read (.str s.resource))),
    ("outcome", some (.read s.outcome.toJson)),
    ("duration", some (.object [
      ("count", some (.read (.ofNat s.count))),
      ("sum", some (.object [("us", some (.read (.ofNat (s.sum.micros % UInt64.size))))]))]))]

/-- The fields of a transaction. -/
def TransactionRecord.shape (r : TransactionRecord) : Shape :=
  .object [
    ("id", some (.read r.id.toJson)),
    ("trace_id", some (.read r.traceId.toJson)),
    ("parent_id", Shape.read? SpanId.toJson r.parentId),
    ("name", some (.read (.str r.name))),
    ("type", some (.read (.str r.kind))),
    ("result", Shape.read? .str r.result),
    ("outcome", some (.read r.outcome.toJson)),
    ("timestamp", some (.read (.ofNat r.timestamp))),
    ("duration", some (.read r.duration.toJson)),
    ("sampled", some (.read (.bool r.sampled))),
    ("sample_rate", Shape.read? .ofFloat r.sampleRate),
    ("span_count", some r.spanCount.shape),
    ("dropped_spans_stats", Shape.list? (r.droppedSpanStats.map DroppedSpanStat.shape)),
    ("links", Shape.list? (r.links.map Link.shape)),
    ("context", Shape.read? .obj r.context)]

/-- The fields of a span. -/
def SpanRecord.shape (r : SpanRecord) : Shape :=
  .object [
    ("id", some (.read r.id.toJson)),
    ("transaction_id", some (.read r.transactionId.toJson)),
    ("parent_id", some (.read r.parentId.toJson)),
    ("trace_id", some (.read r.traceId.toJson)),
    ("name", some (.read (.str r.name))),
    ("type", some (.read (.str r.kind))),
    ("subtype", Shape.read? .str r.subtype),
    ("action", Shape.read? .str r.action),
    ("start", some (.read r.start.toJson)),
    ("timestamp", some (.read (.ofNat r.timestamp))),
    ("duration", some (.read r.duration.toJson)),
    ("outcome", some (.read r.outcome.toJson)),
    ("sync", Shape.read? .bool r.sync),
    ("sample_rate", Shape.read? .ofFloat r.sampleRate),
    ("context", Shape.read? .obj r.context),
    ("stacktrace", Shape.list? (r.stacktrace.map Frame.shape)),
    ("composite", r.composite.map Composite.shape),
    ("links", Shape.list? (r.links.map Link.shape))]

mutual

/-- The fields of an error with its causes. -/
def ExceptionRecord.shape : ExceptionRecord → Shape
  | .mk message kind handled stacktrace cause =>
    .object [
      ("message", some (.read (.str message))),
      ("type", some (.read (.str kind))),
      ("handled", some (.read (.bool handled))),
      ("stacktrace", Shape.list? (stacktrace.map Frame.shape)),
      ("cause", Shape.list? (ExceptionRecord.shapes cause))]

/-- The fields of several errors with their causes. -/
def ExceptionRecord.shapes : List ExceptionRecord → List Shape
  | [] => []
  | r :: rest => r.shape :: ExceptionRecord.shapes rest

end

/-- The fields of a message. -/
def LogRecord.shape (r : LogRecord) : Shape :=
  .object [
    ("message", some (.read (.str r.message))),
    ("level", some (.read (.str r.level.name))),
    ("stacktrace", Shape.list? (r.stacktrace.map Frame.shape))]

/-- The fields of what is said about the transaction of an error. -/
def TransactionSummary.shape (s : TransactionSummary) : Shape :=
  .object [
    ("sampled", some (.read (.bool s.sampled))),
    ("type", some (.read (.str s.kind))),
    ("name", some (.read (.str s.name)))]

/-- The fields of a captured error or message. -/
def ErrorRecord.shape (r : ErrorRecord) : Shape :=
  .object [
    ("id", some (.read r.id.toJson)),
    ("timestamp", some (.read (.ofNat r.timestamp))),
    ("trace_id", Shape.read? TraceId.toJson r.traceId),
    ("transaction_id", Shape.read? SpanId.toJson r.transactionId),
    ("parent_id", Shape.read? SpanId.toJson r.parentId),
    ("culprit", Shape.read? .str r.culprit),
    ("exception", r.exception.map ExceptionRecord.shape),
    ("log", r.log.map LogRecord.shape),
    ("transaction", r.transaction.map TransactionSummary.shape),
    ("context", Shape.read? .obj r.context)]

/-- The fields of the record of an event. -/
def Event.shape : Event → Shape
  | .transaction r => r.shape
  | .span r => r.shape
  | .error r => r.shape

/-! ### What is read -/

theorem Link.fits_readBack (l : Link) : l.shape.Fits l.toJson.readBack :=
  Writes.fits_readBack (by simp) <| .field_read <| .field_read .nil

theorem Frame.fits_readBack (f : Frame) : f.shape.Fits f.toJson.readBack := by
  rw [shape, toJson]
  refine Writes.fits_readBack (by simp) ?_
  simp only [List.append_assoc, List.cons_append]
  exact .field_read <| .optional_read <| .optional_read <| .optional_read <| .field_read .nil

theorem Composite.fits_readBack (c : Composite) : c.shape.Fits c.toJson.readBack :=
  Writes.fits_readBack (by simp) <| .field_read <| .field_read <| .field_read .nil

theorem SpanCount.fits_readBack (c : SpanCount) : c.shape.Fits c.toJson.readBack :=
  Writes.fits_readBack (by simp) <| .field_read <| .field_read .nil

theorem DroppedSpanStat.fits_readBack (s : DroppedSpanStat) :
    s.shape.Fits s.toJson.readBack :=
  Writes.fits_readBack (by simp) <| .field_read <| .field_read <|
    .field (Writes.fits_readBack (by simp) <| .field_read <|
      .field (Writes.fits_readBack (by simp) <| .field_read .nil) .nil) .nil

theorem TransactionSummary.fits_readBack (s : TransactionSummary) :
    s.shape.Fits s.toJson.readBack :=
  Writes.fits_readBack (by simp) <| .field_read <| .field_read <| .field_read .nil

/-- **A transaction is read with the fields it has.** -/
theorem TransactionRecord.fits_readBack (r : TransactionRecord) :
    r.shape.Fits r.toJson.readBack := by
  rw [shape, toJson]
  refine Writes.fits_readBack (by simp) ?_
  simp only [List.append_assoc, List.cons_append, List.nil_append]
  exact .field_read <| .field_read <| .optional_read <| .field_read <| .field_read <|
    .optional_read <| .field_read <| .field_read <| .field_read <| .field_read <|
    .optional_read <| .field r.spanCount.fits_readBack <|
    .list_map DroppedSpanStat.fits_readBack <| .list_map Link.fits_readBack <|
    .last (.optional_read .nil)

/-- **A span is read with the fields it has.** -/
theorem SpanRecord.fits_readBack (r : SpanRecord) : r.shape.Fits r.toJson.readBack := by
  rw [shape, toJson]
  refine Writes.fits_readBack (by simp) ?_
  simp only [List.append_assoc, List.cons_append, List.nil_append]
  exact .field_read <| .field_read <| .field_read <| .field_read <| .field_read <| .field_read <|
    .optional_read <| .optional_read <|
    .field_read <| .field_read <| .field_read <| .field_read <|
    .optional_read <| .optional_read <| .optional_read <| .list_map Frame.fits_readBack <|
    .optional Composite.fits_readBack <| .last (.list_map Link.fits_readBack .nil)

mutual

/-- **An error is read with the fields it has**, and so are its causes. -/
theorem ExceptionRecord.fits_readBack : ∀ r : ExceptionRecord, r.shape.Fits r.toJson.readBack
  | .mk message kind handled stacktrace cause => by
    rw [ExceptionRecord.shape, ExceptionRecord.toJson]
    refine Writes.fits_readBack (by simp) ?_
    simp only [List.cons_append, List.nil_append]
    exact .field_read <| .field_read <| .field_read <| .list_map Frame.fits_readBack <|
      .last (.list (ExceptionRecord.forall₂_fits_readBack cause) .nil)

theorem ExceptionRecord.forall₂_fits_readBack : ∀ cause : List ExceptionRecord,
    List.Forall₂ (fun shape v => shape.Fits (id v).readBack)
      (ExceptionRecord.shapes cause) (ExceptionRecord.toJsons cause)
  | [] => .nil
  | r :: rest => .cons r.fits_readBack (ExceptionRecord.forall₂_fits_readBack rest)

end

theorem LogRecord.fits_readBack (r : LogRecord) : r.shape.Fits r.toJson.readBack := by
  rw [shape, toJson]
  refine Writes.fits_readBack (by simp) ?_
  simp only [List.cons_append, List.nil_append]
  exact .field_read <| .field_read <| .last (.list_map Frame.fits_readBack .nil)

/-- **A captured error or message is read with the fields it has.** -/
theorem ErrorRecord.fits_readBack (r : ErrorRecord) : r.shape.Fits r.toJson.readBack := by
  rw [shape, toJson]
  refine Writes.fits_readBack (by simp) ?_
  simp only [List.append_assoc, List.cons_append, List.nil_append]
  exact .field_read <| .field_read <| .optional_read <| .optional_read <| .optional_read <|
    .optional_read <| .optional ExceptionRecord.fits_readBack <|
    .optional LogRecord.fits_readBack <| .optional TransactionSummary.fits_readBack <|
    .last (.optional_read .nil)

namespace Event

theorem fits_readBack (e : Event) : e.shape.Fits e.body.readBack := by
  cases e with
  | transaction r => exact r.fits_readBack
  | span r => exact r.fits_readBack
  | error r => exact r.fits_readBack

/-- **One event is one line.** No character below the space is in it, whatever texts and context the
event holds. It is read as one object whose only field is named after the kind of event; and the
value of that field is the record, with the fields that a record has and no others. -/
theorem line_shows (e : Event) :
    Json.IsOneLine e.line.toList ∧
      ∃ record, Json.ofText? e.line = some (.obj [(e.kind, record)]) ∧ e.shape.Fits record := by
  refine ⟨?_, e.body.readBack, ?_, e.fits_readBack⟩
  · rw [line, Json.compact, String.toList_ofList]
    exact Json.isOneLine_write e.toJson
  · exact Json.ofText?_compact e.toJson

end Event

end Telemetry
