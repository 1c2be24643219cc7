import Telemetry.Agent.Spans

/-!
# Acting on what is current

Operations on the transaction or span that is current, for instrumentation that holds no handle.
Where nothing is current they do nothing.

## Main definitions

* `Agent.onCurrent`: an operation on the current transaction.
* `Agent.addCurrentContext`, `Agent.setUser`.
* `Agent.outbound`, `Agent.traceParentHeader`, `Agent.injectHeaders`.
-/

namespace Telemetry

namespace Agent

/-- Does something to the current transaction, if there is one. -/
def onCurrent (a : Agent) (f : Agent → TransactionRef → Agent) : Agent :=
  match a.currentTransaction with
  | some t => f a t
  | none => a

/-- The current transaction, if it is sampled. -/
def currentSampled (a : Agent) : Option TransactionRef :=
  a.currentTransaction.filter fun t => ((a.transaction? t).map (·.sampled)).getD false

/-- Adds data to the context of the current transaction if it is sampled. -/
def addCurrentContext (a : Agent) (key : String) (data : Fields) : Agent :=
  match a.currentSampled with
  | some t => a.addContext t key data
  | none => a

/-- Records who the current transaction runs for. -/
def setUser (a : Agent) (username email id : Option String) : Agent :=
  let known := [("username", username), ("email", email), ("id", id)]
  a.addCurrentContext "user"
    (.ofList (known.filterMap fun (key, value) => value.map fun v => (key, .str v)))

/-- The trace context of a call made by the current span, or else by the current transaction. -/
def outbound (a : Agent) : Agent × Option TraceParent :=
  match a.currentSpan with
  | some s => a.outboundOfSpan s
  | none => (a, (a.currentTransaction.bind a.transaction?).map (·.outbound))

/-- The header of a call made by the current span or transaction. -/
def traceParentHeader (a : Agent) : Agent × Option String :=
  let (a, tp) := a.outbound
  (a, tp.map (·.header))

/-- Writes the headers of a call made by the current span or transaction; `none`, and nothing
written, if there is no current transaction. -/
def injectHeaders (a : Agent) (headers : Headers) : Agent × Option Headers :=
  match a.currentTransaction.bind a.transaction? with
  | none => (a, none)
  | some t =>
    let (a, tp) := a.outbound
    (a, tp.map fun tp => tp.inject headers t.limits.legacyHeader)

end Agent

end Telemetry
