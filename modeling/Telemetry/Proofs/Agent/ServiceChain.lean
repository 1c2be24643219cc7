import Telemetry.Proofs.Trace.SampleRate
import Telemetry.Proofs.Transaction.Identity

/-!
# A trace that runs through many services

A service that begins a trace decides whether it is sampled, and at which rate; all services that
are called from there, directly or through others, have to come to the same answer. All they are
told is what the headers of a call say. In between each of them does whatever it likes: it opens and
ends spans, changes its transaction, begins others, has its settings changed.

The argument follows the calls. What a transaction of the trace hands on is the context of the
trace's first transaction with another calling span; such a context is sendable, so it arrives as it
was sent, and a service that joins the trace makes it the context of its own transaction.

The rate travels as text, and that reading a rate undoes writing it is assumed for the rate at hand.
Identifiers are assumed not to be zero, which the header has no way to say, and an identifier that
names a caller is not given out again by the service that is called.

## Main definitions

* `Service`: a transaction of an agent.
* `Hop`, `Hop.answer?`: one service calls another.
* `Service.chain?`: each service calls the next.
* `Transaction.Continues`: what is to be the same in all services.

## Main results

* `Service.exists_answer`: a call arrives, and the service that answers it belongs to the trace.
* `Service.chain_keeps_trace`: so does every service of a chain.
-/

namespace Telemetry

open Text

/-! ### Services and calls -/

/-- An agent, and the place of one of its transactions. -/
structure Service where
  agent : Agent
  place : TransactionRef

/-- Who makes a call: the transaction itself, or the recorded span at a place. -/
inductive Sender
  | transaction
  | span (place : Nat)

namespace Service

/-- The transaction of a service. -/
def transaction? (s : Service) : Option Transaction := s.agent.transaction? s.place

/-- A service that begins a transaction. -/
def start (a : Agent) (b : TransactionBuilder) : Service :=
  ⟨(a.beginTransaction b).1, (a.beginTransaction b).2⟩

/-- The service after more has happened to its agent. -/
def after (s : Service) (work : List Action) : Service := ⟨(s.agent.run work).agent, s.place⟩

/-- The identifier of a caller. -/
def callerId? (s : Service) : Sender → Option SpanId
  | .transaction => s.transaction?.map (·.id)
  | .span i => s.agent.spanId? (.recording s.place i)

/-- The trace context of a call. -/
def outbound? (s : Service) : Sender → Option TraceParent
  | .transaction => s.transaction?.map (·.outbound)
  | .span i => (s.agent.outboundOfSpan (.recording s.place i)).2

end Service

/-- A call from one service to another. -/
structure Hop where
  /-- What happens in the calling service before the call. -/
  work : List Action
  sender : Sender
  /-- The context is also sent under its legacy name. -/
  legacy : Bool
  receiver : Agent
  /-- The transaction that the receiver begins, but for its caller. -/
  builder : TransactionBuilder

/-- A call that was answered: who made it, and the service that answers. -/
structure Answer where
  caller : SpanId
  service : Service

/-- A call is answered if the context can be taken out of the headers that it was put into. -/
def Hop.answer? (h : Hop) (s : Service) : Option Answer := do
  let s := s.after h.work
  let caller ← s.callerId? h.sender
  let sent ← s.outbound? h.sender
  let received ← (TraceParent.extract (sent.inject [] h.legacy).carrier).1
  return ⟨caller, .start h.receiver { h.builder with caller := some received }⟩

/-- The answers to a chain of calls, in which each service calls the next. -/
def Service.chain? (s : Service) : List Hop → Option (List Answer)
  | [] => some []
  | h :: rest => do
    let answer ← h.answer? s
    let answers ← answer.service.chain? rest
    return answer :: answers

/-! ### What is assumed of a chain -/

/-- The receiver joins the traces of its callers. The caller exists, and its identifier is neither
zero nor the next one that the receiver gives out. -/
structure Hop.IsSound (h : Hop) (s : Service) : Prop where
  joins : h.receiver.config.current.continuation = .join
  caller : ∃ id ∈ (s.after h.work).callerId? h.sender,
    id.isValid = true ∧ id ≠ h.receiver.freshSpanId.2

/-- All calls of a chain are sound. -/
def Service.IsSound : Service → List Hop → Prop
  | _, [] => True
  | s, h :: rest => h.IsSound s ∧ ∀ answer ∈ h.answer? s, answer.service.IsSound rest

/-- A transaction that begins a trace: there is no caller, or its trace is not continued. -/
def Agent.BeginsTrace (a : Agent) (b : TransactionBuilder) : Prop :=
  ∀ caller ∈ b.caller, a.config.current.continuation.continues caller = false

/-! Whether a chain is sound can be computed. -/

instance (h : Hop) (s : Service) : Decidable (h.IsSound s) :=
  decidable_of_iff (h.receiver.config.current.continuation = .join ∧
      ∃ id ∈ (s.after h.work).callerId? h.sender,
        id.isValid = true ∧ id ≠ h.receiver.freshSpanId.2)
    ⟨fun ⟨joins, caller⟩ => ⟨joins, caller⟩, fun h => ⟨h.joins, h.caller⟩⟩

instance Service.decidableIsSound : ∀ (s : Service) (hops : List Hop), Decidable (s.IsSound hops)
  | _, [] => isTrue trivial
  | s, h :: rest =>
    have (answer : Answer) : Decidable (answer.service.IsSound rest) :=
      decidableIsSound answer.service rest
    inferInstanceAs
      (Decidable (h.IsSound s ∧ ∀ answer ∈ h.answer? s, answer.service.IsSound rest))

instance (a : Agent) (b : TransactionBuilder) : Decidable (a.BeginsTrace b) :=
  inferInstanceAs
    (Decidable (∀ caller ∈ b.caller, a.config.current.continuation.continues caller = false))

/-! ### What is the same in all services -/

namespace Transaction

/-- The transaction belongs to the trace that another one began, and says so. -/
structure Belongs (t root : Transaction) : Prop where
  traceId : t.traceId = root.traceId
  sampled : t.sampled = root.sampled
  tracestate : t.traceParent.tracestate = root.traceParent.tracestate
  entries : t.traceParent.entries = root.traceParent.entries
  sampleRate : t.sampleRate = root.sampleRate

/-- The transaction belongs to the trace that another one began, and all its records name this
caller. -/
structure Continues (t root : Transaction) (caller : SpanId) : Prop extends t.Belongs root where
  toRecord : ∀ now, (t.toRecord now).parentId = some caller
  reported : ∀ result name now r, .transaction r ∈ (t.finish result name now).2 →
    r.parentId = some caller

/-- The transaction has the context of the one that began the trace, but for the calling span. -/
structure Relays (t root : Transaction) : Prop where
  context : t.traceParent = root.traceParent.withSpanId t.traceParent.spanId
  sampleRate : t.sampleRate = root.sampleRate

/-- A transaction that other services can join: its context arrives as it was sent, whoever makes
the call, and the rate is read off it. -/
structure IsJoinable (root : Transaction) : Prop where
  sendable : ∀ id : SpanId, id.isValid = true → (root.traceParent.withSpanId id).Sendable
  sampleRate : root.traceParent.sampleRate.1 = root.sampleRate

variable {t t' root : Transaction} {caller : SpanId}

theorem Relays.belongs (h : t.Relays root) : t.Belongs root where
  traceId := (congrArg TraceParent.traceId h.context :)
  sampled := (congrArg TraceParent.isRecorded h.context :)
  tracestate := (congrArg TraceParent.tracestate h.context :)
  entries := (congrArg TraceParent.entries h.context :)
  sampleRate := h.sampleRate

theorem Relays.sameTrace (h : t.Relays root) (hsame : t.SameTrace t') : t'.Relays root where
  context := by
    rw [hsame.context, h.context]
    rfl
  sampleRate := hsame.sampleRate.trans h.sampleRate

theorem Relays.refl (t : Transaction) : t.Relays t := ⟨rfl, rfl⟩

/-- Whoever has a caller names it in all records. -/
theorem Relays.continues (h : t.Relays root) (hroot : t.isRoot = false)
    (hcaller : t.traceParent.spanId = caller) : t.Continues root caller where
  toBelongs := h.belongs
  toRecord := fun now => by simp [Transaction.toRecord, hroot, hcaller]
  reported := by
    intro result name now r hr
    obtain ⟨t', hidentity, rfl⟩ := exists_of_mem_finish hr
    have hsame := sameTrace_of_identity_eq hidentity
    simp [Transaction.toRecord, hsame.isRoot hroot, hsame.caller hroot, hcaller]

end Transaction

namespace Service

variable {a : Agent} {b : TransactionBuilder} {s : Service} {t root : Transaction} {h : Hop}

/-! ### Beginning a transaction -/

theorem transaction?_start (a : Agent) (b : TransactionBuilder) :
    (start a b).transaction? =
      let r := a.freshSpanId.1.traceFor b a.freshSpanId.2
      some (.create a.freshSpanId.2 b.kind r.2.1 r.2.2.1 r.2.2.2 b.start a.config.current.limits
        r.1.now r.1.wall) := by
  simp only [start, transaction?, Agent.beginTransaction]
  split <;> exact Array.getElem?_push_size

/-- The transaction that begins has the context and the rate that were settled for it. -/
theorem exists_start (a : Agent) (b : TransactionBuilder) :
    ∃ t, (start a b).transaction? = some t ∧ t.identity =
      ⟨a.freshSpanId.2, (a.freshSpanId.1.traceFor b a.freshSpanId.2).2.1,
        (a.freshSpanId.1.traceFor b a.freshSpanId.2).2.2.1⟩ :=
  ⟨_, transaction?_start a b, rfl⟩

/-- Whoever joins a trace takes over the context of the caller. -/
theorem exists_start_of_joins (hjoins : a.config.current.continuation = .join)
    (received : TraceParent) :
    ∃ t, (start a { b with caller := some received }).transaction? = some t ∧ t.identity =
      ⟨a.freshSpanId.2, received, received.sampleRate.1⟩ := by
  obtain ⟨t, ht, hidentity⟩ := exists_start a { b with caller := some received }
  refine ⟨t, ht, hidentity.trans ?_⟩
  have hcontinues : a.freshSpanId.1.config.current.continuation.continues received = true := by
    change a.config.current.continuation.continues received = true
    rw [hjoins]
    rfl
  simp only [Agent.traceFor, hcontinues, if_true]

/-- Whoever begins a trace takes the context and the rate of a new one. -/
theorem exists_newTrace (hbegins : a.BeginsTrace b) :
    ∃ t a' id, (start a b).transaction? = some t ∧
      t.identity = ⟨id, (a'.newTrace id).2.1, some (Agent.newTrace a' id).2.2⟩ := by
  obtain ⟨t, ht, hidentity⟩ := exists_start a b
  cases hcaller : b.caller with
  | none =>
    refine ⟨t, a.freshSpanId.1, a.freshSpanId.2, ht, hidentity.trans ?_⟩
    simp only [Agent.traceFor, hcaller]
  | some received =>
    have hcontinues : a.freshSpanId.1.config.current.continuation.continues received = false :=
      hbegins received hcaller
    refine ⟨t, a.freshSpanId.1.note (.traceRestarted received.traceId), a.freshSpanId.2, ht,
      hidentity.trans ?_⟩
    simp only [Agent.traceFor, hcaller, hcontinues, Bool.false_eq_true, if_false]

/-- **The first transaction of a trace can be joined.** -/
theorem isJoinable_start (hbegins : a.BeginsTrace b) (hroot : (start a b).transaction? = some root)
    (hvalid : root.traceId.isValid = true)
    (hread : ∀ rate ∈ root.sampleRate, readFloat? (plainText rate).toList = some rate) :
    root.IsJoinable := by
  obtain ⟨t, a', id, ht, hidentity⟩ := exists_newTrace hbegins
  obtain rfl := Option.some.inj (hroot.symm.trans ht)
  obtain ⟨sampled, rate, hrate, htrace⟩ := a'.newTrace_eq id
  rw [htrace] at hidentity
  have hcontext := congrArg Transaction.Identity.traceParent hidentity
  have hsampleRate : root.sampleRate = some rate :=
    congrArg Transaction.Identity.sampleRate hidentity
  change root.traceParent = _ at hcontext
  constructor
  · intro id hid
    refine ⟨?_, hvalid, hid, ?_, ?_⟩
    · rw [hcontext]
      exact (by decide : (0 : UInt8) ≠ 0xff)
    · rw [hcontext]
      exact hrate.readState_rateState
    · rw [hcontext]
      exact hrate.entriesOf_rateState.symm
  · have hentry : root.traceParent.entry? Vendor.sampleRateKey = some (plainText rate) := by
      rw [hcontext]
      rfl
    have hprobability : (readFloat? (plainText rate).toList).filter TraceParent.isProbability =
        some rate := by
      rw [hread rate hsampleRate, Option.filter_some, hrate.isProbability, if_pos rfl]
    rw [TraceParent.sampleRate, hentry, hsampleRate]
    simp only [hprobability]

/-! ### One call -/

/-- The context of a call is that of the transaction, with the caller in it. -/
theorem outbound?_eq (hs : s.transaction? = some t) {sender : Sender} {id : SpanId}
    (hcaller : s.callerId? sender = some id) :
    s.outbound? sender = some (t.traceParent.withSpanId id) := by
  cases sender with
  | transaction =>
    rw [callerId?, hs] at hcaller
    rw [outbound?, hs, ← Option.some.inj hcaller]
    rfl
  | span i =>
    have htransaction : s.agent.transaction? s.place = some t := hs
    simp only [callerId?, Agent.spanId?, Agent.span?, htransaction, Option.bind_some,
      Option.map_eq_some_iff] at hcaller
    obtain ⟨span, hspan, rfl⟩ := hcaller
    simp only [outbound?, Agent.outboundOfSpan, htransaction, Transaction.outboundOf, hspan]

/-- The transaction of the service after more has happened is a later state of the same one. -/
theorem exists_after (hs : s.transaction? = some t) (work : List Action) :
    ∃ t', (s.after work).transaction? = some t' ∧ t.SameTrace t' :=
  Agent.run_sameTrace hs work

/-- **A call arrives**, and the service that answers it belongs to the trace. -/
theorem exists_answer (hs : s.transaction? = some t) (hrelays : t.Relays root)
    (hjoinable : root.IsJoinable) (hsound : h.IsSound s) :
    ∃ answer t', h.answer? s = some answer ∧ answer.service.transaction? = some t' ∧
      t'.Relays root ∧ t'.isRoot = false ∧ t'.traceParent.spanId = answer.caller := by
  obtain ⟨u, hu, hsame⟩ := exists_after hs h.work
  obtain ⟨id, hcaller, hvalid, hfresh⟩ := hsound.caller
  have hcontext : u.traceParent.withSpanId id = root.traceParent.withSpanId id := by
    rw [(hrelays.sameTrace hsame).context]
    rfl
  have hsent := outbound?_eq hu hcaller
  rw [hcontext] at hsent
  have hempty : Headers.get? traceStateHeader [] = none := rfl
  have harrives := TraceParent.extract_inject (hjoinable.sendable id hvalid) (fun _ => hempty)
    h.legacy
  obtain ⟨t', ht', hidentity⟩ := exists_start_of_joins (b := h.builder) hsound.joins
    (root.traceParent.withSpanId id)
  have hid : t'.id = h.receiver.freshSpanId.2 := congrArg Transaction.Identity.id hidentity
  have hreceived : t'.traceParent = root.traceParent.withSpanId id :=
    congrArg Transaction.Identity.traceParent hidentity
  have hrate : t'.sampleRate = root.traceParent.sampleRate.1 :=
    congrArg Transaction.Identity.sampleRate hidentity
  refine ⟨⟨id, _⟩, t', ?_, ht', ⟨?_, hrate.trans hjoinable.sampleRate⟩, ?_, ?_⟩
  · have hcaller' : (s.after h.work).callerId? h.sender = some id := hcaller
    simp only [Hop.answer?, hcaller', hsent, harrives, Option.bind_eq_bind, Option.bind_some]
    rfl
  · rw [hreceived]
    rfl
  · rw [Transaction.isRoot, hreceived, hid]
    exact beq_eq_false_iff_ne.mpr hfresh
  · rw [hreceived]
    rfl

/-! ### Chains -/

/-- A service belongs to a trace as long as it runs. -/
theorem exists_continues {caller : SpanId} (hs : s.transaction? = some t)
    (hrelays : t.Relays root) (hroot : t.isRoot = false) (hcaller : t.traceParent.spanId = caller)
    (work : List Action) :
    ∃ t', (s.after work).transaction? = some t' ∧ t'.Continues root caller := by
  obtain ⟨t', ht', hsame⟩ := exists_after hs work
  refine ⟨t', ht', (hrelays.sameTrace hsame).continues (hsame.isRoot hroot) ?_⟩
  rw [hsame.caller hroot, hcaller]

/-- All calls of a chain arrive, if the first service relays the trace. -/
theorem exists_chain {hops : List Hop} (hs : s.transaction? = some t) (hrelays : t.Relays root)
    (hjoinable : root.IsJoinable) (hsound : s.IsSound hops) :
    ∃ answers, s.chain? hops = some answers ∧ answers.length = hops.length ∧
      ∀ answer ∈ answers, ∀ work, ∃ t', (answer.service.after work).transaction? = some t' ∧
        t'.Continues root answer.caller := by
  induction hops generalizing s t with
  | nil => exact ⟨[], rfl, rfl, by simp⟩
  | cons h rest ih =>
    obtain ⟨answer, t', hanswer, ht', hrelays', hroot, hcaller⟩ :=
      exists_answer hs hrelays hjoinable hsound.1
    obtain ⟨answers, hchain, hlength, hall⟩ := ih ht' hrelays' (hsound.2 answer hanswer)
    refine ⟨answer :: answers, ?_, congrArg (· + 1) hlength, ?_⟩
    · simp only [chain?, hanswer, hchain, Option.bind_eq_bind, Option.bind_some]
      rfl
    · rintro answer' (_ | ⟨_, hmem⟩)
      · exact exists_continues ht' hrelays' hroot hcaller
      · exact hall answer' hmem

/-- **A trace keeps its identity through any chain of services**: every call arrives, and every
service belongs to the trace for as long as it runs and names its caller. -/
theorem chain_keeps_trace {hops : List Hop} (hbegins : a.BeginsTrace b)
    (hroot : (start a b).transaction? = some root) (hvalid : root.traceId.isValid = true)
    (hread : ∀ rate ∈ root.sampleRate, readFloat? (plainText rate).toList = some rate)
    (hsound : (start a b).IsSound hops) :
    (∀ work, ∃ t, ((start a b).after work).transaction? = some t ∧ t.Belongs root) ∧
      ∃ answers, (start a b).chain? hops = some answers ∧ answers.length = hops.length ∧
        ∀ answer ∈ answers, ∀ work, ∃ t, (answer.service.after work).transaction? = some t ∧
          t.Continues root answer.caller := by
  refine ⟨fun work => ?_, ?_⟩
  · obtain ⟨t, ht, hsame⟩ := exists_after hroot work
    exact ⟨t, ht, ((Transaction.Relays.refl root).sameTrace hsame).belongs⟩
  · exact exists_chain hroot (.refl root) (isJoinable_start hbegins hroot hvalid hread) hsound

/-- An agent that samples a quarter of its traces, and the first one it begins. -/
def quarter : Agent where
  config := ⟨{ sampleRate := 0.25 }, 0⟩
  sampler := ⟨3, 0⟩

/-- A span of the first service calls the second one, and the transaction of that one a third. -/
def twoCalls : List Hop :=
  [{ work := [.beginSpan 0 { name := "checkout" } none]
     sender := .span 0
     legacy := true
     receiver := { config := ⟨{}, 0⟩, ids := .counting 100 }
     builder := { kind := "request" } },
    { work := []
      sender := .transaction
      legacy := false
      receiver := { config := ⟨{ sampleRate := 0 }, 0⟩, ids := .counting 200 }
      builder := { kind := "request" } }]

theorem chain_keeps_trace_twoCalls :
    ∃ root answers, (start quarter { kind := "request" }).transaction? = some root ∧
      root.sampled = true ∧ root.sampleRate = some 0.25 ∧
      (start quarter { kind := "request" }).chain? twoCalls = some answers ∧
      answers.length = 2 ∧
      ∀ answer ∈ answers, ∀ work, ∃ t, (answer.service.after work).transaction? = some t ∧
        t.Continues root answer.caller := by
  have hroots : ∀ root ∈ (start quarter { kind := "request" }).transaction?,
      root.traceId.isValid = true ∧ root.sampled = true ∧ root.sampleRate = some 0.25 ∧
        ∀ rate ∈ root.sampleRate, readFloat? (plainText rate).toList = some rate := by
    decide +kernel
  obtain ⟨root, hroot, -⟩ := exists_start quarter { kind := "request" }
  obtain ⟨hvalid, hsampled, hrate, hread⟩ := hroots root hroot
  have hsound : (start quarter { kind := "request" }).IsSound twoCalls := by decide +kernel
  obtain ⟨-, answers, hchain, hlength, hanswers⟩ :=
    chain_keeps_trace (by decide +kernel) hroot hvalid hread hsound
  exact ⟨root, answers, hroot, hsampled, hrate, hchain, hlength, hanswers⟩

end Service

end Telemetry
