import Telemetry.Random.ChaCha

/-!
# Sampling

Whether a new trace is recorded. A rate of one or more always samples; a rate of zero or less never
does, nor does a rate that is no number. Only rates in between draw a number, and the trace is
sampled if the number lies below the rate. So the decision for the `j`-th trace with a rate in
between hangs on the `j`-th number of the stream and on that rate alone.

## Main definitions

* `Sampler`, `Sampler.decide`.
* `IdSource`: where identifiers come from.
-/

namespace Telemetry

/-- The stream of a seed, and how many numbers were drawn from it. -/
structure Sampler where
  seed : UInt64
  drawn : Nat := 0
  deriving DecidableEq, Repr

namespace Sampler

/-- The rate leaves the decision to chance. -/
def draws (rate : Float) : Bool := !(rate ≥ 1) && !(rate ≤ 0) && !rate.isNaN

/-- Whether a trace is sampled at a rate, and the sampler afterwards. -/
def decide (s : Sampler) (rate : Float) : Bool × Sampler :=
  if rate ≥ 1 then (true, s)
  else if rate ≤ 0 || rate.isNaN then (false, s)
  else (Stream.unit s.seed s.drawn < rate, { s with drawn := s.drawn + 1 })

end Sampler

end Telemetry
