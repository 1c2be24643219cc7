import Telemetry.Proofs.Agent.ServiceChain
import Telemetry.Proofs.Trace.Editing

/-!
# Whether the next service knows its caller

A service can be told to join the traces of callers that have the same agent, and to link all
others. It cannot see what a caller runs. What it looks for are the agent's entries in the state, so
everything depends on whether a caller leaves some there.

A trace that the agent begins has the sample rate among its entries, whoever the caller was. A trace
that it joins keeps the entries that came with it. But it is given none: if it comes from a
stranger, the next service is told no more than the stranger would have told it, and does not join.

## Main definitions

* `Agent.Recognises`: a service joins the trace of what it was sent.
* `Agent.JoinsStranger`: a service joins a trace without entries.

## Main results

* `Agent.recognises_iff`: what is recognised is a context with an entry.
* `Service.entries_start_eq_nil_iff`: which transactions have none to send.
* `Service.recognises_outbound_iff`: which calls are recognised.
-/

namespace Telemetry

/-- A service reads what it was sent, and the transaction that it begins belongs to the same trace
and has no link to it. -/
def Agent.Recognises (receiver : Agent) (builder : TransactionBuilder) (sent : TraceParent) :
    Prop :=
  ∃ received t, TraceParent.parse sent.header sent.tracestate = .ok received ∧
    (Service.start receiver { builder with caller := some received }).transaction? = some t ∧
    t.traceId = sent.traceId ∧ t.details.links = builder.links

/-- A service joins a trace without entries. -/
def Agent.JoinsStranger (a : Agent) (b : TransactionBuilder) : Prop :=
  a.config.current.continuation = .join ∧ ∃ caller ∈ b.caller, caller.entries = []

instance (a : Agent) (b : TransactionBuilder) : Decidable (a.JoinsStranger b) :=
  inferInstanceAs
    (Decidable (a.config.current.continuation = .join ∧ ∃ caller ∈ b.caller, caller.entries = []))

variable {a receiver : Agent} {b builder : TransactionBuilder} {sent received : TraceParent}

/-! ### The service that is called -/

namespace Agent

/-- A caller with an entry is joined, and any other one is linked. -/
theorem exists_start_of_restartExternal
    (hreceiver : receiver.config.current.continuation = .restartExternal)
    (received : TraceParent) :
    ∃ t, (Service.start receiver { builder with caller := some received }).transaction? = some t ∧
      (received.entries ≠ [] →
        t.traceId = received.traceId ∧ t.details.links = builder.links) ∧
      (received.entries = [] → t.details.links = builder.links ++ [received.link]) := by
  have hcontinues : receiver.freshSpanId.1.config.current.continuation.continues received =
      !received.entries.isEmpty := by
    change receiver.config.current.continuation.continues received = _
    rw [hreceiver]
    rfl
  refine ⟨_, Service.transaction?_start receiver _, fun hentries => ?_, fun hentries => ?_⟩
  · have hjoins : (!received.entries.isEmpty) = true := by simpa using hentries
    simp only [Agent.traceFor, hcontinues, hjoins, if_true]
    exact ⟨rfl, rfl⟩
  · have hrestarts : (!received.entries.isEmpty) = false := by simpa using hentries
    simp only [Agent.traceFor, hcontinues, hrestarts, Bool.false_eq_true, if_false]
    rfl

/-- **Recognised is what has an entry**, among the contexts that a header can name. -/
theorem recognises_iff (hreceiver : receiver.config.current.continuation = .restartExternal)
    (hsent : sent.Legible) : receiver.Recognises builder sent ↔
      (sent.version ≠ 0xff ∧ sent.traceId.isValid = true ∧ sent.spanId.isValid = true) ∧
        sent.entries ≠ [] := by
  -- what is read has the entries of what was sent, but for white space
  have hread {received : TraceParent}
      (h : TraceParent.parse sent.header sent.tracestate = .ok received) :
      received.traceId = sent.traceId ∧ (received.entries = [] ↔ sent.entries = []) := by
    obtain ⟨hversion, htrace, hspan⟩ := TraceParent.exists_parse_header_iff.mp ⟨_, h⟩
    rw [TraceParent.parse_header_with hversion htrace hspan] at h
    obtain rfl := Except.ok.inj h
    rw [TraceParent.entriesOf_readState, hsent.read, List.map_eq_nil_iff]
    exact ⟨rfl, Iff.rfl⟩
  constructor
  · rintro ⟨received, t, hparse, ht, -, hlinks⟩
    refine ⟨TraceParent.exists_parse_header_iff.mp ⟨_, hparse⟩, fun hnone => ?_⟩
    obtain ⟨t', ht', -, hlinked⟩ := exists_start_of_restartExternal hreceiver received
    obtain rfl := Option.some.inj (ht.symm.trans ht')
    rw [hlinked ((hread hparse).2.mpr hnone)] at hlinks
    simp at hlinks
  · rintro ⟨hvalid, hentries⟩
    obtain ⟨received, hparse⟩ := TraceParent.exists_parse_header_iff.mpr hvalid
    obtain ⟨t, ht, hjoined, -⟩ := exists_start_of_restartExternal hreceiver received
    obtain ⟨htrace, hlinks⟩ := hjoined fun h => hentries ((hread hparse).2.mp h)
    exact ⟨received, t, hparse, ht, htrace.trans (hread hparse).1, hlinks⟩

end Agent

/-! ### The service that calls -/

/-- A trace without entries is joined only by who joins all traces. -/
theorem Continuation.continues_iff_of_entries_eq_nil {c : Continuation} {caller : TraceParent}
    (hentries : caller.entries = []) : c.continues caller = true ↔ c = .join := by
  cases c <;> simp [Continuation.continues, hentries]

/-- A new trace takes the rate as any other context takes an entry. -/
theorem Agent.attainable_newTrace (a : Agent) (id : SpanId) :
    (a.newTrace id).2.1.Attainable := by
  obtain ⟨sampled, rate, hrate, htrace⟩ := a.newTrace_eq id
  rw [htrace]
  have hadd : (TraceParent.create a.freshTraceId.2 id sampled).tryAddEntry Vendor.sampleRateKey
      (plainText rate) = .ok { TraceParent.create a.freshTraceId.2 id sampled with
        tracestate := some (rateState rate)
        entries := [(Vendor.sampleRateKey, plainText rate)] } := by
    simp only [TraceParent.tryAddEntry, TraceParent.create, hrate.add_sampleRate]
  exact .tryAddEntry (.create _ _ _) hadd

theorem Agent.entries_newTrace_ne_nil (a : Agent) (id : SpanId) :
    (a.newTrace id).2.1.entries ≠ [] := by
  obtain ⟨sampled, rate, hrate, htrace⟩ := a.newTrace_eq id
  rw [htrace]
  exact List.cons_ne_nil _ _

namespace Service

variable {s : Service} {t : Transaction} {sender : Sender}

/-- A transaction has the context of its caller or that of a new trace. -/
theorem exists_start_cases (a : Agent) (b : TransactionBuilder) :
    ∃ t, (start a b).transaction? = some t ∧
      ((∃ caller ∈ b.caller, a.config.current.continuation.continues caller = true ∧
          t.traceParent = caller) ∨
        a.BeginsTrace b ∧ ∃ a' id, t.traceParent = (Agent.newTrace a' id).2.1) := by
  by_cases hbegins : a.BeginsTrace b
  · obtain ⟨t, a', id, ht, hidentity⟩ := exists_newTrace hbegins
    exact ⟨t, ht, .inr ⟨hbegins, a', id, congrArg Transaction.Identity.traceParent hidentity⟩⟩
  · simp only [Agent.BeginsTrace, not_forall, Bool.not_eq_false] at hbegins
    obtain ⟨caller, hcaller, hcontinues⟩ := hbegins
    obtain ⟨t, ht, hidentity⟩ := exists_start a b
    refine ⟨t, ht, .inl ⟨caller, hcaller, hcontinues, ?_⟩⟩
    have hjoins : a.freshSpanId.1.config.current.continuation.continues caller = true := hcontinues
    have hcontext : t.traceParent = _ := congrArg Transaction.Identity.traceParent hidentity
    simpa only [Agent.traceFor, Option.mem_def.mp hcaller, hjoins, if_true] using hcontext

theorem attainable_start (hcallers : ∀ caller ∈ b.caller, caller.Attainable)
    (ht : (start a b).transaction? = some t) : t.traceParent.Attainable := by
  obtain ⟨t', ht', hcontext⟩ := exists_start_cases a b
  obtain rfl := Option.some.inj (ht.symm.trans ht')
  rcases hcontext with ⟨caller, hcaller, -, rfl⟩ | ⟨-, a', id, heq⟩
  · exact hcallers _ hcaller
  · rw [heq]
    exact a'.attainable_newTrace id

/-- **No entry is sent** by whoever joined a trace without entries, and by nobody else. -/
theorem entries_start_eq_nil_iff (ht : (start a b).transaction? = some t) :
    t.traceParent.entries = [] ↔ a.JoinsStranger b := by
  obtain ⟨t', ht', hcontext⟩ := exists_start_cases a b
  obtain rfl := Option.some.inj (ht.symm.trans ht')
  rcases hcontext with ⟨caller, hcaller, hcontinues, heq⟩ | ⟨hbegins, a', id, heq⟩
  · rw [heq]
    refine ⟨fun h => ⟨?_, caller, hcaller, h⟩, ?_⟩
    · exact (Continuation.continues_iff_of_entries_eq_nil h).mp hcontinues
    · rintro ⟨-, caller', hcaller', h⟩
      exact Option.mem_unique hcaller hcaller' ▸ h
  · rw [heq]
    refine ⟨fun h => absurd h (a'.entries_newTrace_ne_nil id), ?_⟩
    rintro ⟨hjoin, caller, hcaller, h⟩
    have hcontinues := (Continuation.continues_iff_of_entries_eq_nil h).mpr hjoin
    exact absurd (hcontinues.symm.trans (hbegins caller hcaller)) (by decide)

/-- The context of a call is that of the transaction, but for who calls. -/
theorem exists_eq_withSpanId (hs : s.transaction? = some t)
    (hsent : s.outbound? sender = some sent) : ∃ id, sent = t.traceParent.withSpanId id := by
  cases sender with
  | transaction =>
    rw [outbound?, hs] at hsent
    exact ⟨t.id, (Option.some.inj hsent).symm⟩
  | span i =>
    have htransaction : s.agent.transaction? s.place = some t := hs
    simp only [outbound?, Agent.outboundOfSpan, htransaction, Transaction.outboundOf] at hsent
    obtain rfl := Option.some.inj hsent
    split
    · exact ⟨_, rfl⟩
    · exact ⟨t.id, rfl⟩

/-- **A call is recognised** by a service that joins its own kind alone, whatever the strategy of
the caller and whatever it has done since, unless the caller joined the trace of a stranger. Its
header has to be one that can be read. -/
theorem recognises_outbound_iff (hcallers : ∀ caller ∈ b.caller, caller.Attainable)
    (work : List Action) (hsent : ((start a b).after work).outbound? sender = some sent)
    (hreceiver : receiver.config.current.continuation = .restartExternal)
    (builder : TransactionBuilder) :
    receiver.Recognises builder sent ↔
      (sent.version ≠ 0xff ∧ sent.traceId.isValid = true ∧ sent.spanId.isValid = true) ∧
        ¬ a.JoinsStranger b := by
  obtain ⟨t, ht, -⟩ := exists_start a b
  obtain ⟨t', ht', hsame⟩ := exists_after ht work
  obtain ⟨id, hid⟩ := exists_eq_withSpanId ht' hsent
  obtain rfl : sent = t.traceParent.withSpanId id := by
    rw [hid, hsame.context]
    rfl
  have hattainable := (attainable_start hcallers ht).withSpanId id
  rw [Agent.recognises_iff hreceiver hattainable.legible, ← entries_start_eq_nil_iff ht]
  rfl

/-- The header of a caller that has another agent. -/
def foreignHeader : String := "00-0af7651916cd43dd8448eb211c80319c-b7ad6b7169203331-01"

/-- What is read off this header, and the state that came with it. -/
def foreignCaller (tracestate : Option String) : TraceParent :=
  .ofNumbers 0 0x0af7651916cd43dd8448eb211c80319c 0xb7ad6b7169203331 1 tracestate

/-- An agent that treats its callers in one of the three ways. -/
def treating (continuation : Continuation) : Agent where
  config := ⟨{ continuation }, 0⟩

/-- A transaction of such an agent for a caller. -/
def answering (continuation : Continuation) (caller : TraceParent) : Service :=
  start (treating continuation) { kind := "request", caller := some caller }

theorem recognises_outbound_iff_twoStrategies :
    (∃ caller sent, TraceParent.parse foreignHeader (some "x=1, es = s:0.5") = .ok caller ∧
      ((answering .join caller).after [.beginSpan 0 { name := "checkout" } none]).outbound?
        (.span 0) = some sent ∧
      (treating .restartExternal).Recognises { kind := "request" } sent) ∧
    ∃ caller sent, TraceParent.parse foreignHeader (some "x=1") = .ok caller ∧
      ((answering .restart caller).after []).outbound? .transaction = some sent ∧
      (treating .restartExternal).Recognises { kind := "request" } sent := by
  constructor
  · have hparse : TraceParent.parse foreignHeader (some "x=1, es = s:0.5") =
        .ok (foreignCaller (some "x=1, es = s:0.5")) := by
      decide +kernel
    have hsent : ((answering .join (foreignCaller (some "x=1, es = s:0.5"))).after
        [.beginSpan 0 { name := "checkout" } none]).outbound? (.span 0) =
          some ((foreignCaller (some "x=1, es = s:0.5")).withSpanId (.ofNat 2)) := by
      decide +kernel
    refine ⟨_, _, hparse, hsent, (recognises_outbound_iff ?_ _ hsent rfl _).mpr (by decide +kernel)⟩
    rintro _ ⟨⟩
    exact .parse hparse
  · have hparse : TraceParent.parse foreignHeader (some "x=1") =
        .ok (foreignCaller (some "x=1")) := by
      decide +kernel
    have hsent : ((answering .restart (foreignCaller (some "x=1"))).after []).outbound?
        .transaction = some { TraceParent.create (.ofNat 2) (.ofNat 1) true with
          tracestate := some "es=s:1", entries := [("s", "1")] } := by
      decide +kernel
    refine ⟨_, _, hparse, hsent, (recognises_outbound_iff ?_ _ hsent rfl _).mpr (by decide +kernel)⟩
    rintro _ ⟨⟩
    exact .parse hparse

theorem not_recognises_outbound_joinedStranger :
    ∃ caller sent, TraceParent.parse foreignHeader none = .ok caller ∧
      (answering .join caller).outbound? .transaction = some sent ∧
      (∃ received, TraceParent.parse sent.header sent.tracestate = .ok received) ∧
      ¬ (treating .restartExternal).Recognises { kind := "request" } sent := by
  have hparse : TraceParent.parse foreignHeader none = .ok (foreignCaller none) := by
    decide +kernel
  have hsent : (answering .join (foreignCaller none)).outbound? .transaction =
      some ((foreignCaller none).withSpanId (.ofNat 1)) := by
    decide +kernel
  have hlegible : ((foreignCaller none).withSpanId (.ofNat 1)).Legible :=
    (TraceParent.Attainable.withSpanId (.parse hparse) (.ofNat 1)).legible
  refine ⟨_, _, hparse, hsent, TraceParent.exists_parse_header_iff.mpr (by decide +kernel), ?_⟩
  rw [Agent.recognises_iff rfl hlegible]
  exact fun h => h.2 rfl

end Service

end Telemetry
