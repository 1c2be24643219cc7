import Telemetry.Duration
import Telemetry.Redaction.Processor

/-!
# Settings

What can be configured. A transaction takes the settings in effect when it begins and keeps them;
changes are seen by transactions that begin later.

## Main definitions

* `Continuation`: what to do with a trace that a caller already began.
* `Config`, and its defaults.
* `roundRate`: sample rates have four decimal places.
* `ConfigHandle`: the current settings and how often they were changed.
-/

namespace Telemetry

/-- What a transaction does with the trace that its caller began. -/
inductive Continuation
  /-- Become a part of it. -/
  | join
  /-- Begin a new trace and link the caller's. -/
  | restart
  /-- Begin a new trace unless the caller's was begun by this agent. -/
  | restartExternal
  deriving DecidableEq, Repr

/-- The name that settings use. -/
def Continuation.name : Continuation → String
  | .join => "continue"
  | .restart => "restart"
  | .restartExternal => "restart_external"

/-- The settings. -/
structure Config where
  /-- The probability with which a new trace is sampled. -/
  sampleRate : Float := 1
  /-- So many spans of a transaction are recorded; zero means all. -/
  maxSpans : Nat := 500
  /-- Runs of similar spans are merged. -/
  compression : Bool := true
  /-- Longest span that merges with an equal one. -/
  exactMatchMax : Duration := .ofMillis 50
  /-- Longest span that merges with one of the same kind. -/
  sameKindMax : Duration := 0
  /-- Shortest span that gets a stack trace; `none` for no stack traces. -/
  stackTraceMin : Option Duration := some (.ofMillis 5)
  /-- Shorter exit spans are discarded. -/
  exitSpanMin : Duration := 0
  continuation : Continuation := .join
  /-- So many frames of a stack are kept. -/
  stackTraceLimit : Nat := 50
  /-- Patterns for the names of sensitive fields. -/
  sensitiveFields : List String :=
    ["password", "passwd", "pwd", "secret", "*key", "*token*", "*session*", "*credit*", "*card*",
      "*auth*", "*principal*", "set-cookie"]
  processors : List Processor := Processor.all
  /-- Send the trace context under its legacy name, too. -/
  legacyHeader : Bool := false
  deriving DecidableEq

instance : Inhabited Config := ⟨{}⟩

namespace Config

/-- The two settings differ, where a rate that is no number differs from itself. -/
def differs (a b : Config) : Bool :=
  !(a.sampleRate == b.sampleRate && decide ({ a with sampleRate := b.sampleRate } = b))

/-- The chain of processors that the settings describe. -/
def processorChain (c : Config) : ProcessorChain :=
  .ofPatterns c.processors c.sensitiveFields

end Config

/-- The whole number nearest to a number that is not negative; halves are rounded up. -/
def nearestWhole (x : Float) : Float :=
  let whole := x.toUInt64.toFloat
  if x - whole < 0.5 then whole else whole + 1

/-- The smallest positive rate with four decimal places. -/
def leastRate : Float := 0.0001

/-- The rate as a probability with four decimal places. A positive rate never becomes zero, and what
is no number does. -/
def roundRate (rate : Float) : Float :=
  if rate > 0 then
    let rounded := nearestWhole (rate * 10000) / 10000
    -- Rounding keeps the order, so the bounds may be imposed on what was rounded.
    if leastRate ≤ rounded then (if rounded ≤ 1 then rounded else 1) else leastRate
  else if rate == 0 then rate else 0

/-- The current settings and the number of changes so far. -/
structure ConfigHandle where
  current : Config
  version : Nat := 0

namespace ConfigHandle

/-- Changes the current settings. -/
def update (h : ConfigHandle) (f : Config → Config) : ConfigHandle :=
  ⟨f h.current, h.version + 1⟩

/-- Puts other settings in the place of the current ones. -/
def replace (h : ConfigHandle) (c : Config) : ConfigHandle :=
  h.update fun _ => c

end ConfigHandle

end Telemetry
