import Telemetry.Proofs.Agent.Budget
import Telemetry.Proofs.Agent.InnerOperations
import Telemetry.Proofs.Agent.Run

/-!
# A transaction that is not sampled reveals only its bare record

Let a transaction be current that is not sampled, or nothing, and let anything be done to it and to
spans beneath it, while errors are captured. What is queued are the captured errors and the record
of the transaction, without contexts and without a trace of the spans. It is all the same if the
operations on spans, and those with the context and the labels, are left out: these do not show, and
all others come to the same without them.

## Main definitions

* `Event.IsBare`, `Queue.TookBare`: events that show no more than they may.

## Main results

* `Agent.Quiet.shown_carryOut`: what shows of an operation does not depend on what must not show.
* `Agent.Quiet.tookBare`: what an operation queues is bare.
* `Agent.run_reveals_record`: so it is for all runs.
-/

namespace Telemetry

/-- The event shows no more of a transaction that is not sampled than it may. -/
def Event.IsBare (id : SpanId) : Event → Prop
  | .span _ => False
  | .transaction r => r.id = id ∧ r.sampled = false ∧ r.context = none ∧ r.spanCount = ⟨0, 0⟩ ∧
      r.droppedSpanStats = []
  | .error r => r.context = none

/-- The record of a transaction with nothing to show for its spans is bare. -/
theorem Transaction.Silent.isBare_toRecord {tx : Transaction} (h : tx.Silent) (now : Instant) :
    (Event.transaction (tx.toRecord now)).IsBare tx.id := by
  refine ⟨rfl, h.sampled, ?_, ?_, h.stats⟩
  · simp only [toRecord, h.sampled]
    rfl
  · simp only [toRecord, spanCount, h.started, h.dropped]

/-- A queue that was handed such events. -/
def Queue.TookBare (id : SpanId) (q q' : Queue) : Prop :=
  ∃ events : List (Event × Bool), q' = events.foldl (fun q e => (q.put e.1 e.2).1) q ∧
    ∀ e ∈ events, e.1.IsBare id

namespace Queue.TookBare

variable {id : SpanId} {q q' q'' : Queue}

theorem refl (q : Queue) : TookBare id q q := ⟨[], rfl, by simp⟩

theorem put (q : Queue) {e : Event} (he : e.IsBare id) (flush : Bool) :
    TookBare id q (q.put e flush).1 := ⟨[(e, flush)], rfl, by simpa using he⟩

theorem trans (h : TookBare id q q') (h' : TookBare id q' q'') : TookBare id q q'' := by
  obtain ⟨events, rfl, hbare⟩ := h
  obtain ⟨events', rfl, hbare'⟩ := h'
  refine ⟨events ++ events', (List.foldl_append ..).symm, fun e he => ?_⟩
  exact (List.mem_append.mp he).elim (hbare e) (hbare' e)

end Queue.TookBare

namespace Agent

variable {a : Agent} {t : TransactionRef} {tx : Transaction} {id : SpanId} {n : Nat}

/-! ### Operations that show -/

/-- A change to anything else does not depend on the context and the labels. -/
theorem shown_reviseTransaction_shown {f : Details → Details} (htx : a.transaction? t = some tx)
    (hf : ∀ d, { f { d with context := [], labels := [] } with context := [], labels := [] } =
      { f d with context := [], labels := [] }) :
    ((a.shown t).reviseTransaction t f).shown t = (a.reviseTransaction t f).shown t := by
  have htx' := transaction?_shown_of htx
  cases hended : tx.ended with
  | true =>
    simp only [reviseTransaction, htx, htx', Transaction.ended_shown, hended, if_true]
    exact shown_shown a t
  | false =>
    simp only [reviseTransaction, htx, htx', Transaction.ended_shown, hended, Bool.false_eq_true,
      if_false]
    refine shown_modifyTransaction_shown (f := (·.revise f)) (g := (·.revise f)) ?_ ?_
    · intro tx' htx' h
      obtain rfl := Option.some.inj (htx.symm.trans htx')
      cases hended.symm.trans h
    · intro tx' htx'
      obtain rfl := Option.some.inj (htx.symm.trans htx')
      simp only [Transaction.revise, Transaction.ended_shown, hended, Bool.false_eq_true, if_false]
      simp only [Transaction.shown, hf]

theorem shown_ensureParentId_shown (htx : a.transaction? t = some tx) :
    ((a.shown t).ensureParentId t).1.shown t = (a.ensureParentId t).1.shown t := by
  have htx' := transaction?_shown_of htx
  cases hroot : tx.isRoot with
  | true =>
    simp only [ensureParentId, htx, htx', Transaction.isRoot_shown, hroot, if_true]
    exact shown_modifyTransaction_shown (a := a.freshSpanId.1)
      (f := (·.withCaller a.freshSpanId.2)) (g := (·.withCaller a.freshSpanId.2))
      (fun _ _ h => h) fun _ _ => rfl
  | false =>
    simp only [ensureParentId, htx, htx', Transaction.isRoot_shown, hroot, Bool.false_eq_true,
      if_false]
    exact shown_shown a t

/-- The transaction ends with its record alone. -/
theorem finishTransaction_of_silent (htx : a.transaction? t = some tx) (hs : tx.Silent)
    (hended : tx.ended = false) (result name : Option String) :
    (a.finishTransaction t result name).1 =
      (a.modifyTransaction t fun _ => tx.closeAtEnd result name).enqueue
        (.transaction ((tx.closeAtEnd result name).toRecord a.now)) false := by
  simp only [finishTransaction, htx, hended, Bool.false_eq_true, if_false,
    hs.finish_eq hended result name a.now]
  rfl

theorem shown_finishTransaction_shown (htx : a.transaction? t = some tx) (hs : tx.Silent)
    (result name : Option String) :
    ((a.shown t).finishTransaction t result name).1.shown t =
      (a.finishTransaction t result name).1.shown t := by
  have htx' := transaction?_shown_of htx
  cases hended : tx.ended with
  | true =>
    simp only [finishTransaction, htx, htx', hended, Transaction.ended_shown, if_true]
    exact shown_shown a t
  | false =>
    have hrecord : (tx.shown.closeAtEnd result name).toRecord a.now =
        (tx.closeAtEnd result name).toRecord a.now := by
      have hunsampled := (hs.closeAtEnd result name).sampled
      have hunsampled' := (hs.shown.closeAtEnd result name).sampled
      simp only [Transaction.toRecord, hunsampled, hunsampled']
      rfl
    have hmodify : ((a.shown t).modifyTransaction t fun _ =>
          tx.shown.closeAtEnd result name).shown t =
        (a.modifyTransaction t fun _ => tx.closeAtEnd result name).shown t :=
      shown_modifyTransaction_shown (fun _ _ _ => rfl) fun _ _ => rfl
    rw [finishTransaction_of_silent htx hs hended, finishTransaction_of_silent htx' hs.shown hended,
      shown_enqueue, shown_enqueue, hmodify]
    have hnow : (a.shown t).now = a.now := rfl
    rw [hnow, hrecord]
    rfl

theorem shown_endTransaction_shown (htx : a.transaction? t = some tx) (hs : tx.Silent)
    (hcurrent : ∀ u ∈ a.currentTransaction, u = t) (result name : Option String) :
    ((a.shown t).endTransaction result name).1.shown t =
      (a.endTransaction result name).1.shown t := by
  have hsame := currentTransaction_shown a t
  cases hnow : a.currentTransaction with
  | none =>
    simp only [endTransaction, hnow, hsame]
    exact shown_shown a t
  | some u =>
    obtain rfl := hcurrent u hnow
    have hcleared : ((a.shown u).setTransaction none).shown u = (a.setTransaction none).shown u :=
      congrArg (fun b : Agent => { b with contexts := ⟨⟨none, none⟩, #[]⟩ }) (shown_shown a u)
    simp only [endTransaction, hnow, hsame]
    rw [← shown_finishTransaction_shown (a := a.setTransaction none) htx hs, ← hcleared,
      shown_finishTransaction_shown (a := (a.shown u).setTransaction none)
        (transaction?_shown_of htx) hs.shown]

/-- The record of an error, tied to what is current. -/
def tie (a : Agent) (record : ErrorRecord) : ErrorRecord :=
  match a.currentTransaction.bind a.transaction? with
  | some tx => record.within tx (a.currentSpan.bind a.spanId?)
  | none => record

theorem queueError_eq (a : Agent) (culprit : Option String) (exception : Option ExceptionRecord)
    (log : Option LogRecord) (flush : Bool) :
    (a.queueError culprit exception log flush).1 =
      (a.freshTraceId.1.note (.errorCaptured a.freshTraceId.2 flush)).enqueue (.error (a.tie
        { id := a.freshTraceId.2, timestamp := a.wall.micros, culprit, exception, log })) flush :=
  rfl

theorem mem_span_of_currentSpan {s : SpanHandle} (hs : s ∈ a.currentSpan) : s ∈ a.context.span := by
  unfold currentSpan spanOf at hs
  split at hs
  · split at hs
    · cases hs
    · exact hs
  · exact hs

/-- While the transaction is current no recorded span is. -/
theorem Quiet.spanId?_currentSpan (h : a.Quiet t id n) (hcurrent : a.currentTransaction = some t) :
    a.currentSpan.bind a.spanId? = none := by
  obtain ⟨tx, htx, hs, -⟩ := h.own
  refine Option.bind_eq_none_iff.mpr fun s hspan => ?_
  have hwithin : s.isWithin t = true :=
    (keepsCurrent_iff.mp h.contexts.current).2 t hcurrent s (mem_span_of_currentSpan hspan)
  cases s with
  | recording u i =>
    obtain rfl : u = t := of_decide_eq_true hwithin
    simp [spanId?, span?, htx, hs.spans]
  | standIn | detached => rfl

theorem Quiet.tie_shown (h : a.Quiet t id n) (record : ErrorRecord) :
    (a.shown t).tie record = a.tie record := by
  obtain ⟨tx, htx, hs, -⟩ := h.own
  have hsame := currentTransaction_shown a t
  cases hcurrent : a.currentTransaction with
  | none => simp only [tie, hsame, hcurrent, Option.bind_none]
  | some u =>
    obtain rfl := h.current u hcurrent
    have hspan := h.spanId?_currentSpan hcurrent
    simp only [tie, hsame, hcurrent, Option.bind_some, htx, transaction?_shown_of htx,
      currentSpan_shown, Option.bind_none, hspan, ErrorRecord.within, hs.sampled, hs.shown.sampled]
    rfl

theorem Quiet.context_tie (h : a.Quiet t id n) {record : ErrorRecord}
    (hcontext : record.context = none) : (a.tie record).context = none := by
  obtain ⟨tx, htx, hs, -⟩ := h.own
  cases hcurrent : a.currentTransaction with
  | none => simpa only [tie, hcurrent, Option.bind_none] using hcontext
  | some u =>
    obtain rfl := h.current u hcurrent
    simp only [tie, hcurrent, Option.bind_some, htx, ErrorRecord.within, hs.sampled]
    rfl

theorem Quiet.shown_queueError_shown (h : a.Quiet t id n) (culprit : Option String)
    (exception : Option ExceptionRecord) (log : Option LogRecord) (flush : Bool) :
    ((a.shown t).queueError culprit exception log flush).1.shown t =
      (a.queueError culprit exception log flush).1.shown t := by
  have hids : ((a.shown t).freshTraceId.1).shown t = a.freshTraceId.1.shown t :=
    congrArg (fun b : Agent => { b with ids := a.freshTraceId.1.ids }) (shown_shown a t)
  rw [queueError_eq, queueError_eq, shown_enqueue, shown_enqueue, shown_note, shown_note, hids,
    h.tie_shown]
  rfl

/-- **Other operations** come to the same without what the transaction keeps to itself. -/
theorem Quiet.shown_carryOut (h : a.Quiet t id n) {op : Operation} (hfits : a.fits t n op = true)
    (houter : op.isInner = false) :
    (a.carryOut op).shown t = ((a.shown t).carryOut op).shown t := by
  obtain ⟨tx, htx, hs, -⟩ := h.own
  symm
  cases op with
  | captureSpan | leaveScope => cases houter
  | endTransaction result name => exact shown_endTransaction_shown htx hs h.current result name
  | act act =>
    cases act with
    | advance d => exact congrArg (·.advance d) (shown_shown a t)
    | moveTo callStack => exact congrArg (fun b : Agent => { b with callStack }) (shown_shown a t)
    | updateConfig f => exact congrArg (·.updateConfig f) (shown_shown a t)
    | changeTransaction u c =>
      obtain rfl := of_decide_eq_true hfits
      cases c with
      | context | label => cases houter
      | name | result | outcome | link => exact shown_reviseTransaction_shown htx fun _ => rfl
    | ensureParentId u =>
      obtain rfl := of_decide_eq_true hfits
      exact shown_ensureParentId_shown htx
    | finishTransaction u result name =>
      obtain rfl := of_decide_eq_true hfits
      exact shown_finishTransaction_shown htx hs result name
    | captureError message typeName chain handled =>
      exact Quiet.shown_queueError_shown (a := (a.collectFrames a.config.current.stackTraceLimit).1)
        ⟨h.own, h.current, h.contexts⟩ _ _ _ _
    | captureMessage message level =>
      exact Quiet.shown_queueError_shown (a := (a.collectFrames a.config.current.stackTraceLimit).1)
        ⟨h.own, h.current, h.contexts⟩ _ _ _ _
    | switchThread | setTransaction | beginTransaction | forceFlush | shutdown => cases hfits
    | attach | dropGuard | setSpan | beginSpan | changeSpan | outboundOfSpan | endSpan =>
      cases houter

/-! ### The invariant is kept -/

/-- When the current transaction ends, no context names one that has not. -/
theorem Quiet.after_endTransaction (h : a.Quiet t id n) (result name : Option String) :
    (a.endTransaction result name).1.Quiet t id n := by
  cases hnow : a.currentTransaction with
  | none =>
    simp only [endTransaction, hnow]
    exact ⟨h.own, h.current, h.contexts⟩
  | some u =>
    obtain rfl := h.current u hnow
    obtain ⟨tx, htx, -⟩ := h.own
    have heq : (a.endTransaction result name).1 =
        (a.setTransaction none).perform (.finishTransaction u result name) := by
      simp only [endTransaction, hnow]
      rfl
    have hcontexts : (a.endTransaction result name).1.contexts =
        { a.contexts with current := {} } := by
      rw [contexts_endTransaction, hnow]
      rfl
    have hcleared : (a.endTransaction result name).1.currentTransaction = none := by
      rw [currentTransaction, context, hcontexts]
      rfl
    have hlater : ∀ v, a.hasEnded v = true →
        (a.endTransaction result name).1.hasEnded v = true := by
      intro v hv
      rw [heq]
      exact hasEnded_perform (a := a.setTransaction none) _ hv
    have hended : (a.endTransaction result name).1.hasEnded u = true := by
      obtain ⟨tx', htx', hended⟩ :=
        ended_finishTransaction (a := a.setTransaction none) htx result name
      rw [heq, hasEnded_eq, htx']
      exact hended
    refine ⟨?_, by simp [hcleared], ?_⟩
    · rw [heq]
      exact exists_silent_perform (a := a.setTransaction none) h.own _
    · rw [hcontexts]
      refine (h.contexts.mono fun c hc => ?_).setCurrent ?_
      · have hnone : (a.endTransaction result name).1.transactionOf c = none := by
          rw [transactionOf_later hlater, (keepsCurrent_iff.mp hc).1, hnow]
          simp [hended]
        simp [keepsCurrent_iff, hnone, hcleared]
      · simp [keepsCurrent_iff, hcleared, transactionOf]

/-- **The invariant is kept** by all operations that fit. -/
theorem Quiet.carryOut (h : a.Quiet t id n) {op : Operation} (hfits : a.fits t n op = true) :
    (a.carryOut op).Quiet t id n := by
  cases hinner : op.isInner with
  | true => exact (h.unseen hfits hinner).quiet
  | false =>
    cases op with
    | captureSpan | leaveScope => cases hinner
    | endTransaction result name => exact h.after_endTransaction result name
    | act act =>
      refine h.after_of_contexts_eq act ?_
      cases act with
      | advance | moveTo | updateConfig => rfl
      | changeTransaction u c => exact (inward_changeTransaction a u c).contexts
      | ensureParentId u => exact (inward_ensureParentId a u).contexts
      | finishTransaction u result name => exact (inward_finishTransaction a u result name).contexts
      | captureError | captureMessage => exact (inward_queueError _ _ _ _ _).contexts
      | switchThread | setTransaction | beginTransaction | forceFlush | shutdown => cases hfits
      | attach | dropGuard | setSpan | beginSpan | changeSpan | outboundOfSpan | endSpan =>
        cases hinner

/-! ### What is queued -/

theorem queue_enqueue (a : Agent) (e : Event) (flush : Bool) :
    (a.enqueue e flush).queue = (a.queue.put e flush).1 :=
  queue_noteAll _ _

/-- The record of the transaction is bare. -/
theorem tookBare_finishTransaction (htx : a.transaction? t = some tx) (hs : tx.Silent)
    (result name : Option String) :
    Queue.TookBare tx.id a.queue (a.finishTransaction t result name).1.queue := by
  cases hended : tx.ended with
  | true =>
    simp only [finishTransaction, htx, hended, if_true]
    exact .refl _
  | false =>
    rw [finishTransaction_of_silent htx hs hended, queue_enqueue]
    exact .put a.queue ((hs.closeAtEnd result name).isBare_toRecord a.now) false

theorem Quiet.tookBare_queueError (h : a.Quiet t id n) (culprit : Option String)
    (exception : Option ExceptionRecord) (log : Option LogRecord) (flush : Bool) :
    Queue.TookBare id a.queue (a.queueError culprit exception log flush).1.queue := by
  rw [queueError_eq, queue_enqueue]
  refine Queue.TookBare.put a.queue ?_ flush
  exact h.context_tie rfl

/-- **What an operation queues is bare.** -/
theorem Quiet.tookBare (h : a.Quiet t id n) {op : Operation} (hfits : a.fits t n op = true) :
    Queue.TookBare id a.queue (a.carryOut op).queue := by
  have hsame : ∀ {q}, q = a.queue → Queue.TookBare id a.queue q := by
    rintro q rfl
    exact .refl _
  cases hinner : op.isInner with
  | true => exact hsame (congrArg Agent.queue (h.unseen hfits hinner).shown :)
  | false =>
    obtain ⟨tx, htx, hs, rfl⟩ := h.own
    cases op with
    | captureSpan | leaveScope => cases hinner
    | endTransaction result name =>
      cases hnow : a.currentTransaction with
      | none => exact hsame (by simp only [Agent.carryOut, endTransaction, hnow]; rfl)
      | some u =>
        obtain rfl := h.current u hnow
        simp only [Agent.carryOut, endTransaction, hnow]
        exact tookBare_finishTransaction (a := a.setTransaction none) htx hs result name
    | act act =>
      cases act with
      | advance | moveTo | updateConfig => exact .refl _
      | changeTransaction u c => exact hsame (by cases c <;> exact queue_reviseTransaction _ _)
      | ensureParentId u => exact hsame (queue_ensureParentId u)
      | finishTransaction u result name =>
        obtain rfl := of_decide_eq_true hfits
        exact tookBare_finishTransaction htx hs result name
      | captureError message typeName chain handled =>
        exact Quiet.tookBare_queueError (a := (a.collectFrames a.config.current.stackTraceLimit).1)
          ⟨h.own, h.current, h.contexts⟩ _ _ _ _
      | captureMessage message level =>
        exact Quiet.tookBare_queueError (a := (a.collectFrames a.config.current.stackTraceLimit).1)
          ⟨h.own, h.current, h.contexts⟩ _ _ _ _
      | switchThread | setTransaction | beginTransaction | forceFlush | shutdown => cases hfits
      | attach | dropGuard | setSpan | beginSpan | changeSpan | outboundOfSpan | endSpan =>
        cases hinner

/-! ### Runs -/

/-- What operations that are not inner ask for does not depend on the state. -/
theorem fits_of_outer {b : Agent} {op : Operation} (hfits : a.fits t n op = true)
    (houter : op.isInner = false) : b.fits t n op = true := by
  cases op with
  | captureSpan | leaveScope => cases houter
  | endTransaction => rfl
  | act act =>
    cases act with
    | attach | setSpan => cases houter
    | _ => exact hfits

theorem Quiet.tookBare_all (h : a.Quiet t id n) {ops : List Operation}
    (hfits : a.fitsAll t n ops = true) :
    Queue.TookBare id a.queue (a.carryOutAll ops).queue := by
  induction ops generalizing a with
  | nil => exact .refl _
  | cons op rest ih =>
    obtain ⟨hfirst, hrest⟩ := Bool.and_eq_true_iff.mp hfits
    exact (h.tookBare hfirst).trans (ih (h.carryOut hfirst) hrest)

/-- Two runs that differ in inner operations, side by side: what shows of one shows of the other. -/
theorem Quiet.shown_carryOutAll (h : a.Quiet t id n) {b : Agent} (hb : b.Quiet t id n)
    (hsame : a.shown t = b.shown t) {ops : List Operation} (hfits : a.fitsAll t n ops = true) :
    (a.carryOutAll ops).shown t = (b.carryOutAll (Operation.outer ops)).shown t := by
  induction ops generalizing a b with
  | nil => exact hsame
  | cons op rest ih =>
    obtain ⟨hfirst, hrest⟩ := Bool.and_eq_true_iff.mp hfits
    cases hinner : op.isInner with
    | true =>
      have houter : Operation.outer (op :: rest) = Operation.outer rest := by
        simp [Operation.outer, hinner]
      have hunseen := h.unseen hfirst hinner
      rw [houter]
      exact ih hunseen.quiet hb (hunseen.shown.trans hsame) hrest
    | false =>
      have houter : Operation.outer (op :: rest) = op :: Operation.outer rest := by
        simp [Operation.outer, hinner]
      have hfirst' : b.fits t n op = true := fits_of_outer hfirst hinner
      rw [houter]
      refine ih (h.carryOut hfirst) (hb.carryOut hfirst') ?_ hrest
      rw [h.shown_carryOut hfirst hinner, hsame, ← hb.shown_carryOut hfirst' hinner]

theorem silent_foldl (htx : a.transaction? t = some tx) (hs : tx.Silent) (actions : List Action) :
    ∃ tx', (actions.foldl perform a).transaction? t = some tx' ∧ tx'.Silent := by
  induction actions generalizing a tx with
  | nil => exact ⟨tx, htx, hs⟩
  | cons act rest ih =>
    obtain ⟨tx', htx', hstep⟩ := (a.perform_moves act).old htx
    exact ih htx' (hstep.silent hs)

/-- A transaction that is not sampled has nothing to show for its spans, whatever has happened since
it began. -/
theorem silent_of_begun {b : TransactionBuilder} (before : List Action)
    (htx : (before.foldl perform (a.beginTransaction b).1).transaction? (a.beginTransaction b).2 =
      some tx) (hsampled : tx.sampled = false) : tx.Silent := by
  obtain ⟨tx₀, htx₀, hnew, -⟩ := a.exists_begun b
  obtain ⟨tx₁, htx₁, hgrows⟩ := grows_foldl htx₀ before
  obtain rfl := Option.some.inj (htx₁.symm.trans htx)
  obtain ⟨tx₂, htx₂, hs⟩ :=
    silent_foldl htx₀ (hnew.silent (hgrows.sampled.symm.trans hsampled)) before
  obtain rfl := Option.some.inj (htx₂.symm.trans htx)
  exact hs

/-- A transaction that is activated is what is current when it has begun. -/
theorem current_beginTransaction {b : TransactionBuilder} (hactive : b.activate = true) :
    let begun := (a.beginTransaction b).1
    begun.currentTransaction = some (a.beginTransaction b).2 ∧
      begun.keepsCurrent begun.context = true := by
  intro begun
  obtain ⟨tx, htx, hnew, -⟩ := a.exists_begun b
  have hcontext : begun.context = ⟨some (a.beginTransaction b).2, none⟩ :=
    congrArg ContextStack.current (contexts_beginTransaction hactive)
  have hlive : begun.hasEnded (a.beginTransaction b).2 = false := by
    rw [hasEnded_eq, htx]
    exact hnew.ended
  refine ⟨?_, keepsCurrent_iff.mpr ⟨rfl, ?_⟩⟩
  · rw [currentTransaction, hcontext, transactionOf]
    simp [hlive]
  · simp [hcontext]

/-- **A transaction that is not sampled reveals only its bare record.** Let a transaction begin, and
start at any moment of its life at which it is not sampled and nothing else is current. Then let
spans of it be opened, scoped, changed and ended in any nesting, let it be changed and end, and let
errors be captured.

* All that is queued are captured errors and the record of the transaction, without contexts, with
  no spans counted and no statistics of dropped ones.
* Without all that opens, scopes, changes or ends spans, and without what adds to the context and
  the labels, the same events are queued and the same identifiers taken. -/
theorem run_reveals_record (a : Agent) (b : TransactionBuilder) (before : List Action)
    (ops : List Operation) (tx : Transaction) :
    let t := (a.beginTransaction b).2
    let start := ((a.beginTransaction b).1.run before).agent
    let full := start.carryOutAll ops
    let outer := start.carryOutAll (Operation.outer ops)
    start.transaction? t = some tx → tx.sampled = false →
    (∀ u ∈ start.currentTransaction, u = t) → start.keepsCurrent start.context = true →
    start.fitsAll t start.contexts.saved.size ops = true →
    Queue.TookBare tx.id start.queue full.queue ∧
    full.queue = outer.queue ∧ full.ids = outer.ids ∧ full.shown t = outer.shown t := by
  intro t start full outer htx hsampled hcurrent hkept hfits
  have hs : tx.Silent := by
    refine silent_of_begun (a := a) (b := b) before ?_ hsampled
    rw [← htx, ← History.agent_foldl ⟨(a.beginTransaction b).1, []⟩]
    rfl
  have hquiet : start.Quiet t tx.id start.contexts.saved.size :=
    ⟨⟨tx, htx, hs, rfl⟩, hcurrent, ContextStack.confined_of_current hkept⟩
  have hsame : full.shown t = outer.shown t := hquiet.shown_carryOutAll hquiet rfl hfits
  exact ⟨hquiet.tookBare_all hfits, (congrArg Agent.queue hsame :), (congrArg Agent.ids hsame :),
    hsame⟩

/-- An error is captured in a scope within another one, and the outer scope is left before the inner
one. -/
theorem run_reveals_record_twoScopes :
    let b : TransactionBuilder :=
      { kind := "request", caller := some (.create (.ofNat 1) (.ofNat 9) false) }
    let ops : List Operation :=
      [.captureSpan { name := "outer" }, .act (.changeSpan (.standIn 0 0) (.name "renamed")),
        .captureSpan { name := "call", kind := "db", leaf := true },
        .act (.changeTransaction 0 (.label "tenant" (.str "acme"))),
        .act (.captureError "refused" "io::Error" (fun _ => none) false),
        .leaveScope ⟨.standIn 0 0, ⟨1⟩⟩ .success, .leaveScope ⟨.standIn 0 1, ⟨2⟩⟩ .failure,
        .endTransaction (some "ok") none]
    let begun := (inMemory.beginTransaction b).1
    let full := begun.carryOutAll ops
    begun.fitsAll 0 0 ops = true ∧ (Operation.outer ops).length = 2 ∧
      (full.transaction? 0).map (·.standIns.size) = some 2 ∧ full.ids = .counting 3 ∧
      full.queue = (begun.carryOutAll (Operation.outer ops)).queue := by
  intro b ops begun full
  have hfits : begun.fitsAll 0 0 ops = true := by decide +kernel
  obtain ⟨tx, htx, hsampled⟩ := Option.map_eq_some_iff.mp
    (show (begun.transaction? 0).map (·.sampled) = some false by decide +kernel)
  obtain ⟨hcurrent, hkept⟩ := current_beginTransaction (a := inMemory) (b := b) rfl
  have hresult := run_reveals_record inMemory b [] ops tx htx hsampled
    (fun u hu => (Option.some.inj (hcurrent.symm.trans hu)).symm) hkept hfits
  exact ⟨hfits, by decide, by decide +kernel, by decide +kernel, hresult.2.1⟩

end Agent

end Telemetry
