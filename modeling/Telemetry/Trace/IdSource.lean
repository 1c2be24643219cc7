import Telemetry.Random.ChaCha
import Telemetry.Trace.Id

/-!
# Sources of identifiers

Identifiers are either counted, so that a run is reproducible, or drawn at random. Traces, spans and
errors take theirs from one source. A source never gives out the zero identifier.

## Main definitions

* `IdSource`, `IdSource.spanId`, `IdSource.traceId`.
-/

namespace Telemetry

/-- A source of identifiers. -/
inductive IdSource
  /-- The next number is this one. -/
  | counting (next : Nat)
  /-- So many words of the stream of a seed have been used. -/
  | drawing (seed : UInt64) (used : Nat)
  deriving DecidableEq, Repr

namespace IdSource

/-- The identifier one, if a random number happens to be zero. -/
def nonZero (n : Nat) : Nat := if n = 0 then 1 else n

/-- The next number, and the source afterwards. -/
def next : IdSource → (words : Nat) → Nat × IdSource
  | .counting n, _ => (n, .counting (n + 1))
  | .drawing seed used, words =>
    let value := (List.range words).foldl
      (fun n i => n * UInt64.size + (Stream.word seed (used + i)).toNat) 0
    (nonZero value, .drawing seed (used + words))

/-- The next identifier of a transaction or a span. -/
def spanId (s : IdSource) : SpanId × IdSource :=
  let (n, s) := s.next 1
  (.ofNat n, s)

/-- The next identifier of a trace or an error. -/
def traceId (s : IdSource) : TraceId × IdSource :=
  let (n, s) := s.next 2
  (.ofNat n, s)

end IdSource

end Telemetry
