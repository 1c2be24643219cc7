import Telemetry.Decimal.Layout
import Telemetry.Notice
import Telemetry.Trace.Parent

/-!
# Handing a trace context on

A context leaves a service as headers and arrives at the next one as headers. A carrier is whatever
holds them: for each name, the values under it in order. Reading prefers the standard name of the
context header over the legacy one, and joins repeated state headers with commas.

Nothing here fails: a context that cannot be read is absent, an entry that cannot be added is left
out, and a notice says so.

## Main definitions

* `Carrier`, `Headers`: received headers and headers to send.
* `TraceParent.receive`, `TraceParent.extract`, `TraceParent.receiveBinary`.
* `TraceParent.inject`.
* `TraceParent.sampleRate`, `TraceParent.addEntry`, `TraceParent.tryAddEntry`.
-/

namespace Telemetry

open Text

/-- The values under each header name, in order. -/
abbrev Carrier := String → List String

/-- Headers with one value each. -/
abbrev Headers := List (String × String)

namespace Headers

/-- The value under a name. -/
def get? (name : String) : Headers → Option String
  | [] => none
  | (k, v) :: rest => if k = name then some v else get? name rest

/-- The headers with `value` under `name`, whatever was there before. -/
def set (name value : String) : Headers → Headers
  | [] => [(name, value)]
  | (k, v) :: rest => if k = name then (name, value) :: rest else (k, v) :: set name value rest

/-- The headers as a carrier. -/
def carrier (headers : Headers) : Carrier := fun name => (headers.get? name).toList

@[simp]
theorem get?_set_self (name value : String) (headers : Headers) :
    (headers.set name value).get? name = some value := by
  induction headers with
  | nil => simp [set, get?]
  | cons f rest ih =>
    simp only [set]
    split <;> simp_all [get?]

theorem get?_set_of_ne {name other : String} (h : other ≠ name) (value : String)
    (headers : Headers) : (headers.set name value).get? other = headers.get? other := by
  induction headers with
  | nil => simp [set, get?, h.symm]
  | cons f rest ih =>
    simp only [set]
    split
    · rename_i hk
      simp [get?, hk, h.symm]
    · simp [get?, ih]

end Headers

/-- The standard name of the context header. -/
def traceParentHeader : String := "traceparent"

/-- The name of the context header that older agents use. -/
def legacyTraceParentHeader : String := "elastic-apm-traceparent"

/-- The name of the state header. -/
def traceStateHeader : String := "tracestate"

/-- A received context could not be read. -/
def Notice.unreadableTraceParent (header : Option String) (error : TraceParent.Error) : Notice :=
  ⟨.debug, "TraceParent.ParseFailed",
    (header.map fun h => ("header", .text h)).toList ++ [("error", .text error.message)]⟩

/-- The sample rate that a context carries is no probability. -/
def Notice.invalidSampleRate (value : String) : Notice :=
  ⟨.debug, "TraceParent.InvalidSampleRate", [("value", .text value)]⟩

/-- An entry could not be added to the state. -/
def Notice.rejectedEntry (key value : String) (error : Vendor.Error) : Notice :=
  ⟨.warn, "TraceParent.TraceStateRejected",
    [("key", .text key), ("value", .text value), ("error", .text error.message)]⟩

namespace TraceParent

/-- The context in a received header. -/
def receive (header : String) (tracestate : Option String) : Option TraceParent × List Notice :=
  match parse header tracestate with
  | .ok tp => (some tp, [])
  | .error e => (none, [.unreadableTraceParent (some header) e])

/-- The context in received bytes. -/
def receiveBinary (bytes : List UInt8) : Option TraceParent × List Notice :=
  match ofBinary? bytes with
  | some tp => (some tp, [])
  | none => (none, [.unreadableTraceParent none (.invalidBinary bytes.length)])

/-- The values of a repeated header as one; absent if there are none. -/
def joinValues : List String → Option String
  | [] => none
  | values => some (String.intercalate "," values)

/-- The context in received headers. -/
def extract (carrier : Carrier) : Option TraceParent × List Notice :=
  match (carrier traceParentHeader).head?.or (carrier legacyTraceParentHeader).head? with
  | some header => receive header (joinValues (carrier traceStateHeader))
  | none => (none, [])

/-- The headers with the context in them. A state header is written only if there is state. -/
def inject (tp : TraceParent) (headers : Headers) (legacy : Bool) : Headers :=
  let headers := if legacy then headers.set legacyTraceParentHeader tp.header else headers
  let headers := headers.set traceParentHeader tp.header
  match tp.tracestate with
  | some state => headers.set traceStateHeader state
  | none => headers

/-- The value of the agent's first entry with a key. -/
def entry? (tp : TraceParent) (key : String) : Option String :=
  (tp.entries.find? (·.1 == key)).map (·.2)

/-- A probability: a number from zero to one. -/
def isProbability (x : Float) : Bool := 0 ≤ x && x ≤ 1

/-- The sample rate that was decided where the trace began. -/
def sampleRate (tp : TraceParent) : Option Float × List Notice :=
  match tp.entry? Vendor.sampleRateKey with
  | none => (none, [])
  | some raw =>
    match (readFloat? raw.toList).filter isProbability with
    | some rate => (some rate, [])
    | none => (none, [.invalidSampleRate raw])

/-- The context with one more entry, or why it is refused. -/
def tryAddEntry (tp : TraceParent) (key value : String) : Except Vendor.Error TraceParent :=
  match Vendor.add tp.tracestate tp.entries key value with
  | .ok (state, entries) => .ok { tp with tracestate := some state, entries := entries }
  | .error e => .error e

/-- The context with one more entry; a refused entry is left out. -/
def addEntry (tp : TraceParent) (key value : String) : TraceParent × List Notice :=
  match tp.tryAddEntry key value with
  | .ok tp => (tp, [])
  | .error e => (tp, [.rejectedEntry key value e])

end TraceParent

end Telemetry
