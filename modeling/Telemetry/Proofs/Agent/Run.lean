import Telemetry.Proofs.Agent.Moves

/-!
# Runs of an agent

Seen from one transaction a run is a sequence of steps. So what every new transaction has, and every
step keeps, every transaction has after every run.

What a queue is handed may be dropped or exported later. A queue that keeps everything shows what it
was handed, and that is what the ledger says was reported.

## Main definitions

* `Transaction.IsInvariant`, `History.Keeps`.
* `Agent.Queued`: what has reached a queue that keeps everything.

## Main results

* `Agent.perform_queued`, `Agent.run_queued`: such a queue has the records of the ledger.
* `Agent.run_keeps`: invariants of transactions hold after all runs.
-/

namespace Telemetry

namespace Agent

variable {a a' : Agent} {t : TransactionRef} {tx : Transaction}

/-! ### What reaches the queue -/

theorem overflowed_eq_false_iff :
    a.overflowed = false ↔ ∀ {t tx}, a.transaction? t = some tx → tx.overflowed = false := by
  simp only [overflowed, Array.any_eq_false', transaction?]
  constructor
  · intro h t tx htx
    simpa using h tx (Array.mem_of_getElem? htx)
  · intro h tx htx
    obtain ⟨t, ht⟩ := Array.getElem?_of_mem htx
    simpa using h ht

theorem Moves.overflowed_eq_false {L : Ledger} (h : Moves a L a') (hov : a'.overflowed = false) :
    a.overflowed = false := by
  rw [overflowed_eq_false_iff] at hov ⊢
  intro t tx htx
  obtain ⟨tx', htx', hstep⟩ := h.old htx
  exact hstep.overflowed_eq_false (hov htx')

end Agent

/-- The record of a span. -/
def Event.span? : Event → Option SpanRecord
  | .span r => some r
  | _ => none

/-- Redaction leaves spans alone. -/
theorem Event.span?_process (chain : ProcessorChain) (e : Event) :
    (chain.process e).span? = e.span? := by
  cases e <;> rfl

theorem MemoryQueue.spans_put (q : MemoryQueue) (e : Event) (flush : Bool) :
    (q.put e flush).spans = q.spans ++ e.span?.toList := by
  have hspans : ∀ q : MemoryQueue, q.spans = q.events.filterMap Event.span? := fun _ => rfl
  rw [hspans, hspans, MemoryQueue.events_put, List.filterMap_append, List.filterMap_cons,
    Event.span?_process]
  cases e.span? <;> rfl

namespace Agent

variable {a a' : Agent} {t : TransactionRef} {tx : Transaction}

/-- If the queue keeps everything, the records of these spans have been added to it. -/
def Queued (a : Agent) (records : List SpanRecord) (a' : Agent) : Prop :=
  ∀ q, a.queue = .memory q → ∃ q', a'.queue = .memory q' ∧ q'.spans = q.spans ++ records

theorem queued_of_queue_eq (h : a'.queue = a.queue) : Queued a [] a' :=
  fun q hq => ⟨q, h.trans hq, (List.append_nil _).symm⟩

theorem Queued.trans {b : Agent} {records records' : List SpanRecord} (h : Queued a records b)
    (h' : Queued b records' a') : Queued a (records ++ records') a' := by
  intro q hq
  obtain ⟨r, hr, hspans⟩ := h q hq
  obtain ⟨r', hr', hspans'⟩ := h' r hr
  exact ⟨r', hr', by rw [hspans', hspans, List.append_assoc]⟩

theorem queued_enqueue (a : Agent) (e : Event) (flush : Bool) :
    Queued a e.span?.toList (a.enqueue e flush) := by
  intro q hq
  refine ⟨q.put e flush, ?_, q.spans_put e flush⟩
  simp [enqueue, hq, Queue.put]

theorem queued_enqueueAll (a : Agent) (events : List Event) :
    Queued a (events.filterMap Event.span?) (a.enqueueAll events) := by
  induction events generalizing a with
  | nil => exact queued_of_queue_eq rfl
  | cons e rest ih =>
    have h : Queued a _ (a.enqueueAll (e :: rest)) := (a.queued_enqueue e false).trans (ih _)
    rw [List.filterMap_cons]
    cases he : e.span? <;> simpa [he] using h

theorem filterMap_span?_map_span (records : List SpanRecord) :
    (records.map Event.span).filterMap Event.span? = records := by
  rw [List.filterMap_map]
  exact List.filterMap_some

/-- A transaction is exchanged, and events are handed to the queue. -/
theorem Aside.exchange (h : Aside a a') (htx : a.transaction? t = some tx) (tx' : Transaction)
    (events : List Event) :
    ((a'.modifyTransaction t fun _ => tx').enqueueAll events).transaction? t = some tx' ∧
      Queued a (events.filterMap Event.span?)
        ((a'.modifyTransaction t fun _ => tx').enqueueAll events) := by
  constructor
  · have htx' : a'.transaction? t = some tx := by
      rw [transaction?, h.transactions, ← transaction?, htx]
    rw [transaction?, transactions_enqueueAll, ← transaction?]
    exact transaction?_modifyTransaction htx' _
  · intro q hq
    exact queued_enqueueAll _ events q (h.queue.trans hq)

theorem queued_finishTransaction (t : TransactionRef) (result name : Option String)
    (hov : (a.finishTransaction t result name).1.overflowed = false) :
    Queued a (Ledger.records (a.releases (.finishTransaction t result name)))
      (a.finishTransaction t result name).1 := by
  rcases a.finishTransaction_cases t result name with
    ⟨hreleases, haside⟩ | ⟨tx, htx, hended, hreleases, heq⟩ <;> rw [hreleases]
  · exact queued_of_queue_eq haside.queue
  · rw [heq] at hov ⊢
    obtain ⟨htx', hqueued⟩ := (Aside.refl a).exchange htx (tx.finish result name a.now).1
      (tx.finish result name a.now).2
    obtain ⟨-, _, _, -, hevents⟩ :=
      Transaction.finish_eq hended (overflowed_eq_false_iff.mp hov htx')
    have hspans : (tx.finish result name a.now).2.filterMap Event.span? =
        Journal.records (tx.leavingAtEnd.map tx.release) := by
      rw [hevents, List.filterMap_append, filterMap_span?_map_span]
      exact List.append_nil _
    rwa [hspans, ← Ledger.records_ofJournal t] at hqueued

theorem queued_endSpan (s : SpanHandle) (default : Outcome)
    (hov : (a.endSpan s default).overflowed = false) :
    Queued a (Ledger.records (a.releases (.endSpan s default))) (a.endSpan s default) := by
  cases s with
  | detached => exact queued_of_queue_eq rfl
  | standIn t i => exact queued_of_queue_eq rfl
  | recording t i =>
    rcases a.endSpan_cases t i default with
      ⟨hreleases, haside⟩ | ⟨tx, s, d, b, htx, hlive, haside, hreleases, heq⟩ <;> rw [hreleases]
    · exact queued_of_queue_eq haside.queue
    · rw [heq] at hov ⊢
      obtain ⟨htx', hqueued⟩ := haside.exchange htx
        (tx.endSpan i default a.now (a.framesFor tx i)).1
        ((tx.endSpan i default a.now (a.framesFor tx i)).2.map .span)
      obtain ⟨-, _, hrecords⟩ :=
        Transaction.endSpan_eq hlive (overflowed_eq_false_iff.mp hov htx')
      have hspans : ((tx.endSpan i default a.now (a.framesFor tx i)).2.map Event.span).filterMap
          Event.span? = Journal.records
            ((tx.leaving i default a.now (a.framesFor tx i)).map tx.release) := by
        rw [filterMap_span?_map_span, hrecords]
      rwa [hspans, ← Ledger.records_ofJournal t] at hqueued

theorem queued_queueError (a : Agent) (culprit : Option String)
    (exception : Option ExceptionRecord) (log : Option LogRecord) (flush : Bool) :
    Queued a [] (a.queueError culprit exception log flush).1 := by
  intro q hq
  exact queued_enqueue _ (.error _) flush q hq

theorem queue_reviseTransaction (t : TransactionRef) (f : Details → Details) :
    (a.reviseTransaction t f).queue = a.queue := by
  unfold reviseTransaction
  split
  · rfl
  split <;> rfl

theorem queue_ensureParentId (t : TransactionRef) : (a.ensureParentId t).1.queue = a.queue := by
  unfold ensureParentId
  split
  · rfl
  split <;> rfl

theorem queue_beginSpanIn (t : TransactionRef) (b : SpanBuilder) (parent : Option SpanHandle) :
    (a.beginSpanIn t b parent).1.queue = a.queue := by
  unfold beginSpanIn
  split
  · rfl
  split
  · rfl
  · exact queue_noteAll _ _

theorem queue_changeSpan (s : SpanHandle) (c : SpanChange) :
    (a.changeSpan s c).queue = a.queue := by
  cases c <;> cases s <;> rfl

theorem queue_outboundOfSpan (s : SpanHandle) : (a.outboundOfSpan s).1.queue = a.queue := by
  unfold outboundOfSpan
  split
  · rfl
  · rfl
  · split <;> rfl

/-- **What reaches a queue that keeps everything** is what the ledger says was reported. -/
theorem perform_queued (a : Agent) (act : Action) (hov : (a.perform act).overflowed = false) :
    Queued a (Ledger.records (a.releases act)) (a.perform act) := by
  cases act with
  | finishTransaction t result name => exact queued_finishTransaction t result name hov
  | endSpan s default => exact queued_endSpan s default hov
  | beginTransaction b =>
    obtain ⟨_, -, -, -, -, hqueue⟩ := a.beginTransaction_eq b
    exact queued_of_queue_eq hqueue
  | captureError =>
    intro q hq
    exact queued_queueError _ _ _ _ _ q hq
  | captureMessage =>
    intro q hq
    exact queued_queueError _ _ _ _ _ q hq
  | advance | moveTo | updateConfig | switchThread | setTransaction | setSpan =>
    exact queued_of_queue_eq rfl
  | attach c => exact queued_of_queue_eq (aside_attach a c).queue
  | dropGuard g => exact queued_of_queue_eq (aside_dropGuard a g).queue
  | changeTransaction t c => cases c <;> exact queued_of_queue_eq (queue_reviseTransaction t _)
  | ensureParentId t => exact queued_of_queue_eq (queue_ensureParentId t)
  | beginSpan t b parent => exact queued_of_queue_eq (queue_beginSpanIn t b parent)
  | changeSpan s c => exact queued_of_queue_eq (queue_changeSpan s c)
  | outboundOfSpan s => exact queued_of_queue_eq (queue_outboundOfSpan s)
  | forceFlush =>
    intro q hq
    refine ⟨q, ?_, (List.append_nil _).symm⟩
    simp [perform, Agent.forceFlush, hq, Queue.forceFlush]
  | shutdown =>
    intro q hq
    refine ⟨q, ?_, (List.append_nil _).symm⟩
    simp [perform, Agent.shutdown, hq, Queue.shutdown]

end Agent

/-! ### Runs -/

/-- Every new transaction has the property, and every step keeps it. The journal is that of the
transaction since it began. -/
structure Transaction.IsInvariant (P : Transaction → Journal → Prop) : Prop where
  new : ∀ {t : Transaction}, t.IsNew → P t []
  step : ∀ {t t' : Transaction} {J K : Journal}, t.Step K t' → t'.overflowed = false → P t J →
    P t' (J ++ K)

namespace History

variable {P : Transaction → Journal → Prop} {h : History}

/-- Every transaction has the property, and what was not begun has released nothing. -/
structure Keeps (P : Transaction → Journal → Prop) (h : History) : Prop where
  known : ∀ {t tx}, h.agent.transaction? t = some tx → P tx (h.ledger.journal t)
  unknown : ∀ {t}, h.agent.transaction? t = none → h.ledger.journal t = []

theorem overflowed_of_step {act : Action} (hov : (h.step act).agent.overflowed = false) :
    h.agent.overflowed = false :=
  (h.agent.perform_moves act).overflowed_eq_false hov

theorem Keeps.step (hP : Transaction.IsInvariant P) (hk : Keeps P h) {act : Action}
    (hov : (h.step act).agent.overflowed = false) : Keeps P (h.step act) := by
  have hmoves := h.agent.perform_moves act
  constructor
  · intro t tx' htx'
    rw [History.step, Ledger.journal_append]
    cases htx : h.agent.transaction? t with
    | none =>
      rw [hk.unknown htx, (hmoves.new htx).1]
      exact hP.new ((hmoves.new htx).2 tx' htx')
    | some tx =>
      obtain ⟨tx'', htx'', hstep⟩ := hmoves.old htx
      obtain rfl := Option.some.inj (htx''.symm.trans htx')
      exact hP.step hstep (Agent.overflowed_eq_false_iff.mp hov htx') (hk.known htx)
  · intro t hnone
    rw [History.step, Ledger.journal_append]
    cases htx : h.agent.transaction? t with
    | none => rw [hk.unknown htx, (hmoves.new htx).1, List.append_nil]
    | some tx =>
      obtain ⟨tx'', htx'', -⟩ := hmoves.old htx
      cases htx''.symm.trans hnone

/-- The ledger has no part in what happens. -/
theorem agent_foldl (h : History) (actions : List Action) :
    (actions.foldl step h).agent = actions.foldl Agent.perform h.agent := by
  induction actions generalizing h with
  | nil => rfl
  | cons act rest ih => exact ih (h.step act)

theorem overflowed_of_foldl {actions : List Action}
    (hov : (actions.foldl step h).agent.overflowed = false) : h.agent.overflowed = false := by
  induction actions generalizing h with
  | nil => exact hov
  | cons act rest ih => exact overflowed_of_step (ih hov)

theorem Keeps.foldl (hP : Transaction.IsInvariant P) (hk : Keeps P h) {actions : List Action}
    (hov : (actions.foldl History.step h).agent.overflowed = false) :
    Keeps P (actions.foldl History.step h) := by
  induction actions generalizing h with
  | nil => exact hk
  | cons act rest ih => exact ih (hk.step hP (overflowed_of_foldl hov)) hov

theorem queued_foldl {actions : List Action}
    (hov : (actions.foldl step h).agent.overflowed = false) :
    ∃ L, (actions.foldl step h).ledger = h.ledger ++ L ∧
      h.agent.Queued (Ledger.records L) (actions.foldl step h).agent := by
  induction actions generalizing h with
  | nil => exact ⟨[], (List.append_nil _).symm, Agent.queued_of_queue_eq rfl⟩
  | cons act rest ih =>
    obtain ⟨L, hledger, hqueued⟩ := ih (h := h.step act) hov
    refine ⟨h.agent.releases act ++ L, ?_, ?_⟩
    · rw [List.foldl_cons, hledger, History.step, List.append_assoc]
    · rw [Ledger.records_append]
      have hstep : (h.step act).agent.overflowed = false := overflowed_of_foldl hov
      exact (h.agent.perform_queued act hstep).trans hqueued

end History

namespace Agent

variable {a : Agent} {actions : List Action}

theorem agent_run (a : Agent) (actions : List Action) :
    (a.run actions).agent = actions.foldl perform a :=
  History.agent_foldl ⟨a, []⟩ actions

/-- **Invariants of transactions hold after all runs** of an agent that has begun no transactions
yet, as long as no duration overflows. -/
theorem run_keeps {P : Transaction → Journal → Prop} (hP : Transaction.IsInvariant P)
    (hnone : a.transactions = #[]) (hov : (a.run actions).agent.overflowed = false) :
    History.Keeps P (a.run actions) := by
  have hinit : History.Keeps P ⟨a, []⟩ :=
    { known := fun {t tx} htx => by simp [transaction?, hnone] at htx
      unknown := fun _ => rfl }
  exact hinit.foldl hP hov

/-- **A queue that keeps everything** has the records of the ledger after all runs. -/
theorem run_queued (hov : (a.run actions).agent.overflowed = false) :
    a.Queued (Ledger.records (a.run actions).ledger) (a.run actions).agent := by
  obtain ⟨L, hledger, hqueued⟩ := History.queued_foldl (h := ⟨a, []⟩) hov
  rw [List.nil_append] at hledger
  rwa [run, hledger]

end Agent

end Telemetry
