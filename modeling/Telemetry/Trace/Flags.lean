/-!
# Trace options

The last field of a propagated trace context. Only its lowest bit has a meaning: the trace is
recorded, that is, its transactions are sampled. The other bits are kept as they came, so that a
header survives being read and written.

## Main definitions

* `TraceFlags`, `TraceFlags.isRecorded`, `TraceFlags.withRecorded`.
-/

namespace Telemetry

/-- The options of a trace. -/
structure TraceFlags where
  byte : UInt8
  deriving DecidableEq, Repr

namespace TraceFlags

/-- The lowest bit is set. -/
def isRecorded (f : TraceFlags) : Bool := f.byte &&& 1 == 1

/-- The options with the lowest bit set or cleared. -/
def withRecorded (f : TraceFlags) (recorded : Bool) : TraceFlags :=
  if recorded then ⟨f.byte ||| 1⟩ else ⟨f.byte &&& 0xfe⟩

/-- No bit is set. -/
def none : TraceFlags := ⟨0⟩

theorem isRecorded_withRecorded (f : TraceFlags) (recorded : Bool) :
    (f.withRecorded recorded).isRecorded = recorded := by
  obtain ⟨⟨b⟩⟩ := f
  cases recorded <;> simp only [withRecorded, isRecorded] <;> revert b <;> decide

end TraceFlags

end Telemetry
