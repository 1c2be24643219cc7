import Telemetry.Proofs.Agent.ServiceChain
import Telemetry.Proofs.Agent.Shown

/-!
# A trace that begins anew owes nothing to the caller

A service may be called by anybody. Where its settings say that the trace of a caller is not
continued, nothing that the caller sends may steer what is sampled or which identifiers are given
out, neither now nor later: the transaction is the one that would have begun without a caller, and
so is the agent afterwards. All that is left of the caller is a link.

Where the trace is continued it is the other way round: the context is the caller's, and nothing is
drawn for it.

## Main definitions

* `Continuation.Restarts`, `Continuation.Continues`: what becomes of the trace of a caller.
* `Service.answer`: the service after a transaction begins for a caller, or for nobody.
* `Service.SameButLinks`: two services that differ in the links of a transaction alone.

## Main results

* `Service.answer_of_restarts`: what begins for a caller whose trace is not continued.
* `Service.answer_of_continues`: what begins for a caller whose trace goes on.
* `Service.restart_ignores_caller`: callers cannot be told apart but for their links.
-/

namespace Telemetry

/-! ### What becomes of the trace of a caller -/

/-- A trace begins anew in the place of the caller's: always, or because the caller is no agent. -/
inductive Continuation.Restarts (caller : TraceParent) : Continuation → Prop
  | always : Restarts caller .restart
  | stranger (h : caller.entries = []) : Restarts caller .restartExternal

/-- The trace of the caller goes on: always, or because the caller is an agent. -/
inductive Continuation.Continues (caller : TraceParent) : Continuation → Prop
  | always : Continues caller .join
  | agent (h : caller.entries ≠ []) : Continues caller .restartExternal

theorem Continuation.Restarts.continues_eq {c : Continuation} {caller : TraceParent}
    (h : c.Restarts caller) : c.continues caller = false := by
  cases h with
  | always => rfl
  | stranger h => simp [continues, h]

theorem Continuation.Continues.continues_eq {c : Continuation} {caller : TraceParent}
    (h : c.Continues caller) : c.continues caller = true := by
  cases h with
  | always => rfl
  | agent h => simpa [continues] using h

/-- The transaction with other links. -/
def Transaction.withLinks (t : Transaction) (links : List Link) : Transaction :=
  { t with details := { t.details with links } }

namespace Agent

variable {a : Agent} {b : TransactionBuilder} {caller : TraceParent}

/-- A new trace draws for the decision and for its identifier; nothing else is changed. -/
theorem agent_newTrace (a : Agent) (id : SpanId) : ∃ notices, (a.newTrace id).1 =
    { a with
      sampler := (a.sampler.decide (roundRate a.config.current.sampleRate)).2
      ids := a.freshTraceId.1.ids
      notices } :=
  noteAll_eq _ _

/-- A caller whose trace is not continued is linked, and that is all. -/
theorem traceFor_of_restarts (h : a.config.current.continuation.Restarts caller) (id : SpanId) :
    ∃ a' tp rate notices, a.traceFor { b with caller := none } id = (a', tp, rate, b.links) ∧
      a.traceFor { b with caller := some caller } id =
        ({ a' with notices }, tp, rate, b.links ++ [caller.link]) ∧
      a'.transactions = a.transactions ∧ tp.spanId = id ∧ tp.traceId = a.freshTraceId.2 := by
  obtain ⟨fresh, hfresh⟩ := a.agent_newTrace id
  obtain ⟨noted, hnoted⟩ := (a.note (.traceRestarted caller.traceId)).agent_newTrace id
  obtain ⟨sampled, rate, -, htrace⟩ := a.newTrace_eq id
  refine ⟨(a.newTrace id).1, (a.newTrace id).2.1, some (a.newTrace id).2.2, noted, rfl, ?_, ?_,
    ?_, ?_⟩
  · simp only [traceFor, h.continues_eq, Bool.false_eq_true, if_false, hnoted, hfresh]
    rfl
  · rw [hfresh]
  · rw [htrace]
    rfl
  · rw [htrace]
    rfl

/-- A caller whose trace is continued settles the context, and nothing is drawn. -/
theorem traceFor_of_continues (h : a.config.current.continuation.Continues caller) (id : SpanId) :
    ∃ notices, a.traceFor { b with caller := some caller } id =
      ({ a with notices }, caller, caller.sampleRate.1, b.links) := by
  obtain ⟨notices, hnotices⟩ := a.noteAll_eq caller.sampleRate.2
  refine ⟨notices, ?_⟩
  simp only [traceFor, h.continues_eq, if_true, hnotices]

end Agent

namespace Service

variable {a : Agent} {b : TransactionBuilder} {caller : TraceParent}

/-- The service after a transaction begins for a caller, or for nobody. -/
def answer (a : Agent) (b : TransactionBuilder) (caller : Option TraceParent) : Service :=
  start a { b with caller }

/-- Two services that a transaction has begun in. The transactions differ in their links, and the
agents in that transaction and in what was reported about them. -/
structure SameButLinks (s s' : Service) : Prop where
  place : s.place = s'.place
  transaction : s.transaction?.map (·.withLinks []) = s'.transaction?.map (·.withLinks [])
  others : ∀ u ≠ s.place, s.agent.transaction? u = s'.agent.transaction? u
  ids : s.agent.ids = s'.agent.ids
  sampler : s.agent.sampler = s'.agent.sampler
  rest : { s.agent with transactions := #[], notices := #[] } =
    { s'.agent with transactions := #[], notices := #[] }

theorem SameButLinks.symm {s s' : Service} (h : s.SameButLinks s') : s'.SameButLinks s where
  place := h.place.symm
  transaction := h.transaction.symm
  others := fun u hu => (h.others u (h.place ▸ hu)).symm
  ids := h.ids.symm
  sampler := h.sampler.symm
  rest := h.rest.symm

theorem SameButLinks.trans {s s' s'' : Service} (h : s.SameButLinks s') (h' : s'.SameButLinks s'') :
    s.SameButLinks s'' where
  place := h.place.trans h'.place
  transaction := h.transaction.trans h'.transaction
  others := fun u hu => (h.others u hu).trans (h'.others u (h.place ▸ hu))
  ids := h.ids.trans h'.ids
  sampler := h.sampler.trans h'.sampler
  rest := h.rest.trans h'.rest

/-- What begins for nobody, and what begins for a caller whose trace is not continued. -/
theorem answer_of_restarts (h : a.config.current.continuation.Restarts caller) :
    ∃ t notices, (answer a b none).place = a.transactions.size ∧
      (answer a b none).agent.transactions = a.transactions.push t ∧
      t.details.links = b.links ∧ t.traceParent.spanId = t.id ∧
      t.traceId = a.freshSpanId.1.freshTraceId.2 ∧
      answer a b (some caller) =
        ⟨{ (answer a b none).agent with
            transactions := a.transactions.push (t.withLinks (b.links ++ [caller.link]))
            notices }, a.transactions.size⟩ := by
  obtain ⟨a', tp, rate, notices, hnone, hsome, htransactions, hspanId, htraceId⟩ :=
    Agent.traceFor_of_restarts (a := a.freshSpanId.1) (b := b) h a.freshSpanId.2
  have htransactions : a'.transactions = a.transactions := htransactions
  refine ⟨.create a.freshSpanId.2 b.kind tp rate b.links b.start a.config.current.limits a'.now
    a'.wall, notices, ?_, ?_, rfl, hspanId, htraceId, ?_⟩
  · simp only [answer, start, Agent.beginTransaction, hnone, htransactions]
  · simp only [answer, start, Agent.beginTransaction, hnone, htransactions]
    split <;> rfl
  · simp only [answer, start, Agent.beginTransaction, hnone, hsome, htransactions]
    split <;> rfl

/-- All that is left of a caller whose trace is not continued is a link. -/
theorem sameButLinks_of_restarts (h : a.config.current.continuation.Restarts caller) :
    (answer a b (some caller)).SameButLinks (answer a b none) ∧
      ∃ t root, (answer a b (some caller)).transaction? = some t ∧
        (answer a b none).transaction? = some root ∧ t.traceParent.spanId = t.id ∧
        t.traceId = a.freshSpanId.1.freshTraceId.2 ∧
        t.details.links = root.details.links ++ [⟨caller.traceId, caller.spanId⟩] := by
  obtain ⟨root, notices, hplace, htransactions, hlinks, hspanId, htraceId, heq⟩ :=
    answer_of_restarts (b := b) h
  have hroot : (answer a b none).transaction? = some root := by
    rw [transaction?, Agent.transaction?, hplace, htransactions, Array.getElem?_push_size]
  have ht : (answer a b (some caller)).transaction? =
      some (root.withLinks (b.links ++ [caller.link])) := by
    rw [heq]
    exact Array.getElem?_push_size
  refine ⟨?_, _, root, ht, hroot, hspanId, htraceId, by rw [hlinks]; rfl⟩
  exact
    { place := by rw [heq, hplace]
      transaction := by
        rw [ht, hroot]
        rfl
      others := fun u hu => by
        rw [heq] at hu ⊢
        rw [Agent.transaction?, Agent.transaction?, htransactions, Array.getElem?_push,
          Array.getElem?_push, if_neg hu, if_neg hu]
      ids := by rw [heq]
      sampler := by rw [heq]
      rest := by rw [heq] }

/-- What begins for a caller whose trace goes on. -/
theorem answer_of_continues (h : a.config.current.continuation.Continues caller) :
    ∃ t, (answer a b (some caller)).transaction? = some t ∧ t.traceParent = caller ∧
      t.details.links = b.links ∧ (answer a b (some caller)).agent.sampler = a.sampler := by
  obtain ⟨notices, heq⟩ :=
    Agent.traceFor_of_continues (a := a.freshSpanId.1) (b := b) h a.freshSpanId.2
  refine ⟨_, transaction?_start _ _, ?_, ?_, ?_⟩
  · rw [heq]
    rfl
  · rw [heq]
    rfl
  · simp only [answer, start, Agent.beginTransaction, heq]
    split <;> rfl

/-- **A trace that begins anew does not depend on the caller.** Take two callers whose traces are
not continued, because no trace is or because neither caller is an agent. The transactions that
begin for them, and the one that begins for nobody, have the same identifiers, the same context,
which is that of a new trace called by nobody, the same decision and the same rate; and they leave
the same agent behind, so that all that begins later is the same, too. But the transaction links the
caller, after all other links.

If the trace is continued the context is the caller's as it came, no link is added, and no number is
drawn. -/
theorem restart_ignores_caller (a : Agent) (b : TransactionBuilder) :
    (∀ p q, a.config.current.continuation.Restarts p → a.config.current.continuation.Restarts q →
      (answer a b (some p)).SameButLinks (answer a b (some q)) ∧
      (answer a b (some p)).SameButLinks (answer a b none) ∧
      ∃ t root, (answer a b (some p)).transaction? = some t ∧
        (answer a b none).transaction? = some root ∧ t.traceParent.spanId = t.id ∧
        t.traceId = a.freshSpanId.1.freshTraceId.2 ∧
        t.details.links = root.details.links ++ [⟨p.traceId, p.spanId⟩]) ∧
    ∀ p, a.config.current.continuation.Continues p →
      ∃ t, (answer a b (some p)).transaction? = some t ∧ t.traceParent = p ∧
        t.details.links = b.links ∧ (answer a b (some p)).agent.sampler = a.sampler := by
  refine ⟨fun p q hp hq => ?_, fun p hp => answer_of_continues hp⟩
  obtain ⟨hsame, hlinked⟩ := sameButLinks_of_restarts (b := b) hp
  obtain ⟨hsame', -⟩ := sameButLinks_of_restarts (b := b) hq
  exact ⟨hsame.trans hsame'.symm, hsame, hlinked⟩

/-- An agent that samples a quarter of its traces, and continues only those of other agents. -/
def wary : Agent where
  config := ⟨{ sampleRate := 0.25, continuation := .restartExternal }, 0⟩
  sampler := ⟨3, 0⟩

/-- Two strangers get the same answer, one number drawn; an agent is answered within its trace. -/
theorem restart_ignores_caller_wary :
    let stranger : TraceParent := .create (.ofNat 1) (.ofNat 2) true
    let other : TraceParent := .create (.ofNat 3) (.ofNat 4) false
    let agent : TraceParent := { stranger with
      tracestate := some "es=s:1", entries := [("s", "1")] }
    wary.config.current.continuation.Restarts stranger ∧
      wary.config.current.continuation.Restarts other ∧
      wary.config.current.continuation.Continues agent ∧
      (answer wary { kind := "request" } (some stranger)).SameButLinks
        (answer wary { kind := "request" } (some other)) ∧
      (answer wary { kind := "request" } (some stranger)).agent.sampler.drawn = 1 ∧
      ∃ t, (answer wary { kind := "request" } (some agent)).transaction? = some t ∧
        t.traceParent = agent ∧ t.details.links = [] := by
  intro stranger other agent
  have hstranger : wary.config.current.continuation.Restarts stranger := .stranger rfl
  have hother : wary.config.current.continuation.Restarts other := .stranger rfl
  have hagent : wary.config.current.continuation.Continues agent := .agent (by decide)
  obtain ⟨hrestarts, hcontinues⟩ := restart_ignores_caller wary { kind := "request" }
  obtain ⟨hsame, -, -⟩ := hrestarts stranger other hstranger hother
  obtain ⟨t, ht, hcontext, hlinks, -⟩ := hcontinues agent hagent
  exact ⟨hstranger, hother, hagent, hsame, by decide +kernel, t, ht, hcontext, hlinks⟩

end Service

end Telemetry
