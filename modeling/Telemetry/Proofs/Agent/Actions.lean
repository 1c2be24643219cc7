import Telemetry.Agent.Capture
import Telemetry.Proofs.Transaction.Step

/-!
# What happens to an agent

A run is any sequence of the operations that instrumentation can call, on any handles, with time
passing, settings changing and threads being switched in between. Scopes, tasks and operations on
what is current are made of these.

What a run releases is written down in a ledger, with the transaction that released it. The ledger
is no part of the agent; it says what an agent would know that forgot nothing.

## Main definitions

* `Action`, `Agent.perform`: the operations.
* `Ledger`, `Agent.releases`: what they release.
* `History`, `Agent.run`.
-/

namespace Telemetry

/-! ### Actions -/

/-- A change to a transaction. -/
inductive TransactionChange
  | name (name : String)
  | result (result : String)
  | outcome (outcome : Outcome)
  | context (key : String) (data : Fields)
  | label (key : String) (value : Json)
  | link (link : Link)

/-- A change to a span. -/
inductive SpanChange
  | name (name : String)
  | outcome (outcome : Outcome)
  | context (key : String) (data : Fields)
  | label (key : String) (value : Json)
  | link (link : Link)

/-- What happens to an agent. -/
inductive Action
  /-- Time passes. -/
  | advance (d : Duration)
  /-- The program goes on elsewhere. -/
  | moveTo (callStack : List Frame)
  | updateConfig (f : Config → Config)
  /-- Another thread runs, which has contexts of its own. -/
  | switchThread (contexts : ContextStack)
  | attach (c : Context)
  | dropGuard (g : Guard)
  | setTransaction (t : Option TransactionRef)
  | setSpan (s : Option SpanHandle)
  | beginTransaction (b : TransactionBuilder)
  | changeTransaction (t : TransactionRef) (c : TransactionChange)
  | ensureParentId (t : TransactionRef)
  | finishTransaction (t : TransactionRef) (result name : Option String)
  | beginSpan (t : TransactionRef) (b : SpanBuilder) (parent : Option SpanHandle)
  | changeSpan (s : SpanHandle) (c : SpanChange)
  | outboundOfSpan (s : SpanHandle)
  | endSpan (s : SpanHandle) (default : Outcome)
  | captureError (message typeName : String) (chain : Nat → Option Cause) (handled : Bool)
  | captureMessage (message : String) (level : Severity)
  | forceFlush
  | shutdown

namespace Agent

/-- A transaction is changed. -/
def changeTransaction (a : Agent) (t : TransactionRef) : TransactionChange → Agent
  | .name name => a.setName t name
  | .result result => a.setResult t result
  | .outcome outcome => a.setOutcome t outcome
  | .context key data => a.addContext t key data
  | .label key value => a.label t key value
  | .link link => a.addLink t link

/-- A span is changed. -/
def changeSpan (a : Agent) (s : SpanHandle) : SpanChange → Agent
  | .name name => a.setSpanName s name
  | .outcome outcome => a.setSpanOutcome s outcome
  | .context key data => a.addSpanContext s key data
  | .label key value => a.labelSpan s key value
  | .link link => a.addSpanLink s link

/-- The agent after an action. -/
def perform (a : Agent) : Action → Agent
  | .advance d => a.advance d
  | .moveTo callStack => { a with callStack }
  | .updateConfig f => a.updateConfig f
  | .switchThread contexts => { a with contexts }
  | .attach c => (a.attach c).1
  | .dropGuard g => a.dropGuard g
  | .setTransaction t => a.setTransaction t
  | .setSpan s => a.setSpan s
  | .beginTransaction b => (a.beginTransaction b).1
  | .changeTransaction t c => a.changeTransaction t c
  | .ensureParentId t => (a.ensureParentId t).1
  | .finishTransaction t result name => (a.finishTransaction t result name).1
  | .beginSpan t b parent => (a.beginSpanIn t b parent).1
  | .changeSpan s c => a.changeSpan s c
  | .outboundOfSpan s => (a.outboundOfSpan s).1
  | .endSpan s default => a.endSpan s default
  | .captureError message typeName chain handled =>
    (a.captureError message typeName chain handled).1
  | .captureMessage message level => (a.captureMessage message level).1
  | .forceFlush => a.forceFlush.1
  | .shutdown => a.shutdown.1

end Agent

/-! ### Ledgers -/

/-- What was released, oldest first, and by which transaction. -/
abbrev Ledger := List (TransactionRef × Release)

namespace Ledger

/-- The releases of one transaction. -/
def journal (L : Ledger) (t : TransactionRef) : Journal := (L.filter (·.1 = t)).map (·.2)

/-- The records that were reported, by all transactions. -/
def records (L : Ledger) : List SpanRecord := Journal.records (L.map (·.2))

/-- The releases of one transaction as a ledger. -/
def ofJournal (t : TransactionRef) (J : Journal) : Ledger := J.map (t, ·)

@[simp] theorem journal_append (L M : Ledger) (t : TransactionRef) :
    journal (L ++ M) t = journal L t ++ journal M t := by
  simp [journal]

@[simp] theorem records_append (L M : Ledger) : records (L ++ M) = records L ++ records M := by
  simp [records]

@[simp] theorem records_ofJournal (t : TransactionRef) (J : Journal) :
    records (ofJournal t J) = Journal.records J := by
  simp [records, ofJournal, Function.comp_def]

theorem journal_ofJournal (t u : TransactionRef) (J : Journal) :
    journal (ofJournal t J) u = if t = u then J else [] := by
  by_cases h : t = u <;> simp [journal, ofJournal, List.filter_map, Function.comp_def, h]

end Ledger

namespace Agent

/-- The frames that are collected for a span that ends. -/
def framesFor (a : Agent) (tx : Transaction) (i : Nat) : List Frame :=
  match tx.framesWanted i a.now with
  | some limit => a.callStack.take limit
  | none => []

/-- What an action releases. -/
def releases (a : Agent) : Action → Ledger
  | .endSpan (.recording t i) default =>
    match a.transaction? t with
    | some tx =>
      .ofJournal t ((tx.leaving i default a.now (a.framesFor tx i)).map tx.release)
    | none => []
  | .finishTransaction t _ _ =>
    match a.transaction? t with
    | some tx => .ofJournal t (tx.leavingAtEnd.map tx.release)
    | none => []
  | _ => []

end Agent

/-- An agent, and what was released until then. -/
structure History where
  agent : Agent
  ledger : Ledger := []

/-- The history after one more action. -/
def History.step (h : History) (act : Action) : History :=
  ⟨h.agent.perform act, h.ledger ++ h.agent.releases act⟩

/-- The history of an agent to which these actions happen. -/
def Agent.run (a : Agent) (actions : List Action) : History := actions.foldl History.step ⟨a, []⟩

/-- An agent that records four spans, leaves out short calls, and keeps all events. -/
def Agent.inMemory : Agent where
  config := ⟨{ maxSpans := 4, exitSpanMin := 3 }, 0⟩
  queue := .memory {}

/-- Two calls that are alike and a short one end beneath a span, which ends after them. There was
one more call, which is refused if only four spans are recorded. -/
def nestedCalls : List Action :=
  let outer : SpanHandle := .recording 0 0
  let call : SpanBuilder := { kind := "db", leaf := true, duration := some 5 }
  [.beginTransaction { kind := "request", caller := some (.create (.ofNat 1) (.ofNat 9) true) },
    .beginSpan 0 { name := "outer" } none,
    .beginSpan 0 call outer,
    .beginSpan 0 call outer,
    .beginSpan 0 { kind := "cache", leaf := true, duration := some 1 } outer,
    .beginSpan 0 call none,
    .endSpan (.recording 0 2) .success,
    .endSpan (.recording 0 1) .success,
    .endSpan (.recording 0 3) .success,
    .endSpan outer .success]

end Telemetry
