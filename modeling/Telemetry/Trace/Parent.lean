import Telemetry.Text.Blank
import Telemetry.Text.Quoted
import Telemetry.Text.Split
import Telemetry.Trace.Flags
import Telemetry.Trace.Id
import Telemetry.Trace.Vendor

/-!
# Trace contexts

What one service tells the next about the trace they share: a version, the trace, the span that
made the call, the options, and the state that vendors attach. The first four are one header,
`version-trace-span-options`; the state is a second one.

Versions other than 00 may have more fields, which are ignored; `ff` is no version. A header is
refused for the first rule it breaks, in the order of `TraceParent.parse`.

## Main definitions

* `TraceParent`: the context. `entries` are the agent's own part of `tracestate`, in order.
* `TraceParent.Error`, `TraceParent.Error.message`.
* `TraceParent.parse`, `TraceParent.header`: reading and writing the header.
* `TraceParent.ofBinary?`, `TraceParent.toBinary`: the form of 29 bytes.
-/

namespace Telemetry

open Text

/-- The identity of a trace as it is handed from service to service. -/
structure TraceParent where
  version : UInt8
  traceId : TraceId
  spanId : SpanId
  flags : TraceFlags
  tracestate : Option String
  entries : List Vendor.Entry
  deriving DecidableEq

/-- Why a header or its binary form is refused. -/
inductive TraceParent.Error
  | missingFields (found : Nat)
  | invalidVersion (field : String)
  | unexpectedFields (found : Nat)
  | invalidTraceId (field : String)
  | invalidSpanId (field : String)
  | invalidFlags (field : String)
  | invalidBinary (size : Nat)
  deriving DecidableEq, Repr

/-- The wording of a refusal. -/
def TraceParent.Error.message : TraceParent.Error → String
  | .missingFields n => s!"expected 4 fields in trace parent, found {n}"
  | .invalidVersion s => "invalid trace parent version " ++ quote s
  | .unexpectedFields n => s!"version 00 trace parent must have exactly 4 fields, found {n}"
  | .invalidTraceId s => "invalid trace id " ++ quote s
  | .invalidSpanId s => "invalid parent span id " ++ quote s
  | .invalidFlags s => "invalid trace options " ++ quote s
  | .invalidBinary n => s!"invalid binary trace parent of {n} bytes"

namespace TraceParent

/-- A context of version 00 without vendor state. -/
def create (traceId : TraceId) (spanId : SpanId) (recorded : Bool) : TraceParent where
  version := 0
  traceId := traceId
  spanId := spanId
  flags := TraceFlags.none.withRecorded recorded
  tracestate := none
  entries := []

/-- The number written with exactly `width` lower-case digits. -/
def readField? (width : Nat) (field : List Char) : Option Nat :=
  if isLowerHex width field then ofHexDigits? field else none

/-- The state header without the white space around it; an empty one counts as absent. -/
def readState (tracestate : Option String) : Option String :=
  (tracestate.map fun s => trim s.toList).filter (!·.isEmpty) |>.map String.ofList

/-- Reads the fields of a header. -/
def ofFields (fields : List (List Char)) (tracestate : Option String) :
    Except Error TraceParent :=
  match fields with
  | version :: traceId :: spanId :: flags :: extra =>
    match (readField? 2 version).filter (· ≠ 0xff) with
    | none => .error (.invalidVersion (String.ofList version))
    | some v =>
      if v = 0 ∧ extra ≠ [] then .error (.unexpectedFields fields.length)
      else match (readField? 32 traceId).filter (· ≠ 0) with
      | none => .error (.invalidTraceId (String.ofList traceId))
      | some t =>
        match (readField? 16 spanId).filter (· ≠ 0) with
        | none => .error (.invalidSpanId (String.ofList spanId))
        | some s =>
          match readField? 2 flags with
          | none => .error (.invalidFlags (String.ofList flags))
          | some f =>
            let state := readState tracestate
            .ok {
              version := UInt8.ofNat v
              traceId := .ofNat t
              spanId := .ofNat s
              flags := ⟨UInt8.ofNat f⟩
              tracestate := state
              entries := (state.map Vendor.entriesOf).getD [] }
  | _ => .error (.missingFields fields.length)

/-- Reads a header and the state that came with it. -/
def parse (header : String) (tracestate : Option String) : Except Error TraceParent :=
  ofFields ((trim header.toList).splitOn '-') tracestate

/-- The characters of the header. -/
def headerChars (tp : TraceParent) : List Char :=
  hexFixed 2 tp.version.toNat ++ '-' :: (tp.traceId.digits ++
    '-' :: (tp.spanId.digits ++ '-' :: hexFixed 2 tp.flags.byte.toNat))

/-- The written form, without the vendor state. -/
def header (tp : TraceParent) : String :=
  String.ofList tp.headerChars

/-- The context read from 29 bytes: the version, then the trace, the span and the options, each
after a byte that numbers it. -/
def ofBinary? (bytes : List UInt8) : Option TraceParent :=
  if bytes.length = 29 ∧ bytes[1]? = some 0 ∧ bytes[18]? = some 1 ∧ bytes[27]? = some 2 then
    some {
      version := bytes.headD 0
      traceId := .ofBytes ((bytes.drop 2).take 16)
      spanId := .ofBytes ((bytes.drop 19).take 8)
      flags := ⟨bytes.getLastD 0⟩
      tracestate := none
      entries := [] }
  else none

/-- The 29 bytes of a context; the vendor state is left out. -/
def toBinary (tp : TraceParent) : List UInt8 :=
  tp.version :: 0 :: (tp.traceId.toBytes ++ 1 :: (tp.spanId.toBytes ++ [2, tp.flags.byte]))

/-- The context with another calling span. -/
def withSpanId (tp : TraceParent) (spanId : SpanId) : TraceParent :=
  { tp with spanId }

/-- The context with the recorded option set or cleared. -/
def withRecorded (tp : TraceParent) (recorded : Bool) : TraceParent :=
  { tp with flags := tp.flags.withRecorded recorded }

/-- The context continues a sampled trace. -/
def isRecorded (tp : TraceParent) : Bool := tp.flags.isRecorded

@[simp]
theorem length_toBinary (tp : TraceParent) : tp.toBinary.length = 29 := by
  simp [toBinary, TraceId.toBytes, SpanId.toBytes]

end TraceParent

end Telemetry
