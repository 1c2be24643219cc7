import Telemetry.Proofs.Agent.Unsampled
import Telemetry.Proofs.Transaction.Recount

/-!
# The story of a run

The moments of all transactions, in the order in which they happen, and the errors that are captured
in between. Like a ledger the story is no part of the agent. The events that reach the queue can be
read off it, and it has a chronicle for each transaction.

## Main definitions

* `Happening`, `Story`, `Story.of`, `Story.events`.
* `Agent.happenings`, `Agent.story`: what happens in an action, and in a run.
* `Agent.Received`: what has reached a queue that keeps everything, event by event.
* `Agent.Tells`: one operation, as its story has it.

## Main results

* `Agent.perform_tells`, `Agent.story_chronicled`: the story has a chronicle for each transaction.
* `Agent.perform_received`, `Agent.story_received`: the story has the events that reach the queue.
-/

namespace Telemetry

/-! ### Stories -/

/-- What happens in a run: a moment of a transaction, or an error or a message is captured. -/
inductive Happening
  | within (t : TransactionRef) (m : Moment)
  | captured (record : ErrorRecord)

/-- What happens, oldest first. -/
abbrev Story := List Happening

/-- The event that is queued at a moment. -/
def Moment.event? : Moment → Option Event
  | .ended _ _ _ => none
  | .left _ r => if r.reported then some (.span r.span.toRecord) else none
  | .reported record => some (.transaction record)
  | .tracked _ => none

namespace Chronicle

/-- The events that are queued. -/
def events (C : Chronicle) : List Event := C.filterMap (·.event?)

@[simp] theorem events_append (C K : Chronicle) : events (C ++ K) = events C ++ events K := by
  simp [events]

theorem events_ended (i : Nat) (parent : Option Nat) (f : FinishedSpan) (C : Chronicle) :
    events (.ended i parent f :: C) = events C := rfl

theorem events_reported (record : TransactionRecord) :
    events [.reported record] = [.transaction record] := rfl

/-- What leaves a buffer and is reported is queued. -/
theorem events_leaving (parent : Option Nat) (J : Journal) :
    events (leaving parent J) = (Journal.records J).map .span := by
  rw [events, leaving, List.filterMap_map, Journal.records, List.map_map, ← List.filterMap_eq_map,
    List.filterMap_filter]
  rfl

end Chronicle

namespace Happening

/-- The moment of a transaction. -/
def moment? (t : TransactionRef) : Happening → Option Moment
  | .within u m => if u = t then some m else none
  | .captured _ => none

/-- The event that is queued. -/
def event? : Happening → Option Event
  | .within _ m => m.event?
  | .captured record => some (.error record)

end Happening

namespace Story

/-- The chronicle of a transaction. -/
def of (S : Story) (t : TransactionRef) : Chronicle := S.filterMap (·.moment? t)

/-- The events that are queued. -/
def events (S : Story) : List Event := S.filterMap (·.event?)

/-- The chronicle of one transaction as a story. -/
def ofChronicle (t : TransactionRef) (C : Chronicle) : Story := C.map (.within t)

variable {S S' : Story} {t : TransactionRef}

@[simp] theorem of_append (S S' : Story) (t : TransactionRef) :
    of (S ++ S') t = of S t ++ of S' t := by
  simp [of]

@[simp] theorem events_append (S S' : Story) : events (S ++ S') = events S ++ events S' := by
  simp [events]

theorem of_ofChronicle (t u : TransactionRef) (C : Chronicle) :
    of (ofChronicle t C) u = if t = u then C else [] := by
  have heq : (fun m => (Happening.within t m).moment? u) =
      fun m => if t = u then some m else none := rfl
  rw [of, ofChronicle, List.filterMap_map, Function.comp_def, heq]
  split
  · exact List.filterMap_some
  · simp

theorem events_ofChronicle (t : TransactionRef) (C : Chronicle) :
    events (ofChronicle t C) = C.events := by
  rw [events, ofChronicle, List.filterMap_map]
  rfl

end Story

namespace Transaction

variable {t t' : Transaction} {i : Nat} {s : Span} {d : SpanDetails} {default : Outcome}
  {now : Instant} {frames : List Frame} {result name : Option String}

/-- The end of a span hands over the events of its chronicle. -/
theorem events_chronicleOfSpan (hlive : t.liveSpan? i = some (s, d))
    (hov : (t.endSpan i default now frames).1.overflowed = false) :
    (t.chronicleOfSpan i default now frames).events =
      (t.endSpan i default now frames).2.map .span := by
  obtain ⟨-, stats, heq⟩ := endSpan_eq hlive hov
  rw [heq]
  simp only [chronicleOfSpan, leaving, hlive, Chronicle.events_append, Chronicle.events_ended,
    Chronicle.events_leaving, List.map_append, Journal.records_append]

/-- The end of a transaction hands over the events of its chronicle. -/
theorem events_chronicleAtEnd (hended : t.ended = false)
    (hov : (t.finish result name now).1.overflowed = false) :
    (t.chronicleAtEnd result name now).events = (t.finish result name now).2 := by
  rw [finish_of_not_ended hended] at hov ⊢
  have hov : ((t.closeAtEnd result name).reportAll t.buffer.slot.toList).1.overflowed = false :=
    (overflowed_forgetContext _).symm.trans hov
  obtain ⟨-, stats, hreport⟩ := reportAll_eq _ hov
  simp only [chronicleAtEnd, hended, Bool.false_eq_true, if_false, Chronicle.events_append,
    Chronicle.events_leaving, Chronicle.events_reported, overflowed_forgetContext, hov]
  rw [hreport]
  rfl

end Transaction

namespace Agent

variable {a a' : Agent} {t : TransactionRef} {tx : Transaction}

/-- The record of an error that is captured now. -/
def errorRecord (a : Agent) (culprit : Option String) (exception : Option ExceptionRecord)
    (log : Option LogRecord) : ErrorRecord :=
  a.tie { id := a.freshTraceId.2, timestamp := a.wall.micros, culprit, exception, log }

/-- The record of an error, or of a message, that is captured now. -/
def captured? (a : Agent) : Action → Option ErrorRecord
  | .captureError message typeName chain handled =>
    let (a, frames) := a.collectFrames a.config.current.stackTraceLimit
    let exception := ExceptionRecord.mk message (shortTypeName typeName) handled frames
      (nestCauses handled (causesOf chain))
    some (a.errorRecord (culprit frames) (some exception) none)
  | .captureMessage message level =>
    let (a, frames) := a.collectFrames a.config.current.stackTraceLimit
    some (a.errorRecord (culprit frames) none (some ⟨message, level, frames⟩))
  | _ => none

/-- What happens in an action. -/
def happenings (a : Agent) (act : Action) : Story :=
  match act with
  | .endSpan (.recording t i) default =>
    match a.transaction? t with
    | some tx => .ofChronicle t (tx.chronicleOfSpan i default a.now (a.framesFor tx i))
    | none => []
  | .endSpan (.standIn t i) _ =>
    match a.transaction? t with
    | some tx => .ofChronicle t (tx.chronicleOfStandIn i a.now)
    | none => []
  | .finishTransaction t result name =>
    match a.transaction? t with
    | some tx => .ofChronicle t (tx.chronicleAtEnd result name a.now)
    | none => []
  | act => (a.captured? act).toList.map .captured

/-- What happens in a run. -/
def story (a : Agent) : List Action → Story
  | [] => []
  | act :: rest => a.happenings act ++ (a.perform act).story rest

/-! ### Each transaction has its chronicle -/

/-- One operation, as its story has it. -/
structure Tells (a : Agent) (S : Story) (a' : Agent) : Prop where
  old : ∀ {t tx}, a.transaction? t = some tx →
    ∃ tx', a'.transaction? t = some tx' ∧ tx.Told (S.of t) tx'
  new : ∀ {t}, a.transaction? t = none → S.of t = [] ∧ ∀ tx ∈ a'.transaction? t, tx.IsNew

/-- Nothing ends. -/
structure Idles (a a' : Agent) : Prop where
  old : ∀ {t tx}, a.transaction? t = some tx →
    ∃ tx', a'.transaction? t = some tx' ∧ tx.Idles tx'

theorem idles_of_transactions_eq (h : a'.transactions = a.transactions) : Idles a a' where
  old := fun {t tx} htx => ⟨tx, by rwa [transaction?, h], .refl tx⟩

theorem idles_modify {f : Transaction → Transaction}
    (h : a'.transactions = a.transactions.modify t f)
    (hf : ∀ tx, a.transaction? t = some tx → tx.Idles (f tx)) : Idles a a' where
  old := by
    intro u tx htx
    rw [transaction?, h, Array.getElem?_modify, ← transaction?, htx]
    by_cases htu : t = u
    · subst htu
      exact ⟨f tx, if_pos rfl, hf tx htx⟩
    · exact ⟨tx, if_neg htu, .refl tx⟩

theorem idles_beginTransaction (b : TransactionBuilder) : Idles a (a.beginTransaction b).1 where
  old := by
    obtain ⟨_, -, -, htransactions, -, -⟩ := a.beginTransaction_eq b
    intro u tx htx
    have hlt : u < a.transactions.size := (Array.getElem?_eq_some_iff.mp htx).1
    refine ⟨tx, ?_, .refl tx⟩
    rwa [transaction?, htransactions, Array.getElem?_push_lt hlt, ← Array.getElem?_eq_getElem]

theorem idles_reviseTransaction (t : TransactionRef) (f : Details → Details) :
    Idles a (a.reviseTransaction t f) := by
  unfold reviseTransaction
  split
  · exact idles_of_transactions_eq rfl
  split
  · exact idles_of_transactions_eq rfl
  · exact idles_modify rfl fun tx _ => Transaction.idles_revise f

theorem idles_ensureParentId (t : TransactionRef) : Idles a (a.ensureParentId t).1 := by
  unfold ensureParentId
  split
  · exact idles_of_transactions_eq rfl
  split
  · exact idles_modify (f := (·.withCaller a.freshSpanId.2)) rfl fun tx _ =>
      Transaction.idles_of_eq rfl rfl rfl rfl rfl
  · exact idles_of_transactions_eq rfl

theorem idles_beginSpanIn (t : TransactionRef) (b : SpanBuilder) (parent : Option SpanHandle) :
    Idles a (a.beginSpanIn t b parent).1 := by
  cases htx : a.transaction? t with
  | none =>
    simp only [beginSpanIn, htx]
    exact idles_of_transactions_eq rfl
  | some tx =>
    cases hadmission : tx.admission (a.enclosing t parent) with
    | ok place =>
      rw [beginSpanIn_of_admitted htx hadmission]
      exact idles_modify (f := (·.openSpan b place a.freshSpanId.2 a.now)) rfl fun tx _ =>
        Transaction.idles_openSpan b place _ _
    | error reason =>
      obtain ⟨ns, heq⟩ := beginSpanIn_of_refused (b := b) htx hadmission
      rw [heq]
      exact idles_modify (f := (·.openStandIn b reason a.now)) (transactions_noteAll _ _)
        fun tx _ => Transaction.idles_of_eq rfl rfl rfl rfl rfl

theorem idles_changeSpan (s : SpanHandle) (c : SpanChange) : Idles a (a.changeSpan s c) := by
  have hrevise : ∀ (s : SpanHandle) f, Idles a (a.reviseSpan s f) := by
    intro s f
    cases s with
    | recording t i => exact idles_modify rfl fun tx _ => Transaction.idles_reviseSpan i f
    | standIn => exact idles_of_transactions_eq rfl
    | detached => exact idles_of_transactions_eq rfl
  cases c with
  | outcome outcome =>
    cases s with
    | standIn t i =>
      exact idles_modify (f := (·.modifyStandIn i ({ · with outcome := some outcome }))) rfl
        fun tx _ => Transaction.idles_of_eq rfl rfl rfl rfl rfl
    | recording t i => exact hrevise (.recording t i) _
    | detached => exact idles_of_transactions_eq rfl
  | name | context | label | link => exact hrevise _ _

theorem idles_outboundOfSpan (s : SpanHandle) : Idles a (a.outboundOfSpan s).1 := by
  cases s with
  | recording t i =>
    unfold outboundOfSpan
    dsimp only
    split
    · exact idles_of_transactions_eq rfl
    · exact idles_modify (f := fun tx => (tx.outboundOf i).1) rfl fun tx _ =>
        Transaction.idles_outboundOf i
  | standIn => exact idles_of_transactions_eq rfl
  | detached => exact idles_of_transactions_eq rfl

theorem Idles.tells {S : Story} (h : Idles a a') (hmoves : Moves a [] a')
    (hS : ∀ t, S.of t = []) : Tells a S a' where
  old := fun {t tx} htx => by
    obtain ⟨tx', htx', hidle⟩ := h.old htx
    obtain ⟨tx'', htx'', hstep⟩ := hmoves.old htx
    obtain rfl := Option.some.inj (htx'.symm.trans htx'')
    rw [hS]
    exact ⟨tx', htx', .idle hidle hstep⟩
  new := fun {t} hnone => ⟨hS t, (hmoves.new hnone).2⟩

theorem tells_of_transactions_eq {S : Story} (h : a'.transactions = a.transactions)
    (hS : ∀ t, S.of t = []) : Tells a S a' :=
  (idles_of_transactions_eq h).tells (moves_of_transactions_eq h) hS

/-- One known transaction is exchanged for what becomes of it. -/
theorem tells_exchange {tx' : Transaction} {C : Chronicle} (htx : a.transaction? t = some tx)
    (h : a'.transactions = a.transactions.modify t fun _ => tx') (htold : tx.Told C tx') :
    Tells a (.ofChronicle t C) a' where
  old := by
    intro u tx₀ hu
    rw [Story.of_ofChronicle, transaction?, h, Array.getElem?_modify, ← transaction?, hu]
    by_cases htu : t = u
    · subst htu
      obtain rfl := Option.some.inj (htx.symm.trans hu)
      rw [if_pos rfl, if_pos rfl]
      exact ⟨tx', rfl, htold⟩
    · rw [if_neg htu, if_neg htu]
      exact ⟨tx₀, rfl, .idle (.refl tx₀) .idle⟩
  new := by
    intro u hnone
    have htu : t ≠ u := by
      rintro rfl
      cases htx.symm.trans hnone
    rw [Story.of_ofChronicle, if_neg htu, transaction?, h, Array.getElem?_modify, if_neg htu,
      ← transaction?, hnone]
    exact ⟨rfl, by simp⟩

theorem tells_finishTransaction (t : TransactionRef) (result name : Option String) :
    Tells a (a.happenings (.finishTransaction t result name))
      (a.finishTransaction t result name).1 := by
  cases htx : a.transaction? t with
  | none =>
    simp only [happenings, finishTransaction, htx]
    exact tells_of_transactions_eq rfl fun _ => rfl
  | some tx =>
    cases hended : tx.ended with
    | true =>
      simp only [happenings, finishTransaction, htx, hended, if_true]
      refine tells_of_transactions_eq rfl fun u => ?_
      simp [Story.of_ofChronicle, Transaction.chronicleAtEnd, hended]
    | false =>
      simp only [happenings, finishTransaction, htx, hended, Bool.false_eq_true, if_false]
      exact tells_exchange htx (transactions_enqueueAll _ _) (.finish result name a.now)

theorem tells_endSpan (t : TransactionRef) (i : Nat) (default : Outcome) :
    Tells a (a.happenings (.endSpan (.recording t i) default))
      (a.endSpan (.recording t i) default) := by
  cases htx : a.transaction? t with
  | none =>
    simp only [happenings, endSpan, htx]
    exact tells_of_transactions_eq rfl fun _ => rfl
  | some tx =>
    cases hlive : tx.liveSpan? i with
    | none =>
      have haside := aside_endSpan_of_not_live htx hlive default
      refine tells_of_transactions_eq haside.transactions fun u => ?_
      simp [happenings, htx, Story.of_ofChronicle, Transaction.chronicleOfSpan, hlive]
    | some sd =>
      obtain ⟨frameRequests, heq⟩ := endSpan_of_live htx hlive default
      rw [heq]
      simp only [happenings, htx]
      exact tells_exchange htx (transactions_enqueueAll _ _)
        (.endSpan i default a.now (a.framesFor tx i))

theorem tells_endStandIn (t : TransactionRef) (i : Nat) (default : Outcome) :
    Tells a (a.happenings (.endSpan (.standIn t i) default))
      (a.endSpan (.standIn t i) default) := by
  cases htx : a.transaction? t with
  | none =>
    have hsame : (a.endSpan (.standIn t i) default).transactions = a.transactions := by
      refine Array.ext_getElem? fun u => ?_
      simp only [endSpan, modifyTransaction, Array.getElem?_modify]
      split
      · rename_i htu
        subst htu
        rw [show a.transactions[t]? = none from htx]
        rfl
      · rfl
    refine tells_of_transactions_eq hsame fun _ => ?_
    simp only [happenings, htx]
    rfl
  | some tx =>
    simp only [happenings, htx]
    refine tells_exchange htx ?_ (.endStandIn i default a.now)
    have hsame : ∀ tx', a.transactions[t]? = some tx' →
        tx'.endStandIn i default a.now = tx.endStandIn i default a.now := fun tx' htx' => by
      rw [Option.some.inj (htx.symm.trans htx')]
    exact modify_congr hsame

/-- **One operation**, as its story has it. -/
theorem perform_tells (a : Agent) (act : Action) :
    Tells a (a.happenings act) (a.perform act) := by
  have hmoves := a.perform_moves act
  cases act with
  | finishTransaction t result name => exact tells_finishTransaction t result name
  | endSpan s default =>
    cases s with
    | recording t i => exact tells_endSpan t i default
    | standIn t i => exact tells_endStandIn t i default
    | detached => exact tells_of_transactions_eq rfl fun _ => rfl
  | advance | moveTo | updateConfig | switchThread | setTransaction | setSpan | forceFlush =>
    exact tells_of_transactions_eq rfl fun _ => rfl
  | attach c => exact tells_of_transactions_eq (aside_attach a c).transactions fun _ => rfl
  | dropGuard g => exact tells_of_transactions_eq (aside_dropGuard a g).transactions fun _ => rfl
  | beginTransaction b => exact (idles_beginTransaction b).tells hmoves fun _ => rfl
  | changeTransaction t c =>
    have hidles : Idles a (a.changeTransaction t c) := by
      cases c <;> exact idles_reviseTransaction t _
    exact hidles.tells hmoves fun _ => rfl
  | ensureParentId t => exact (idles_ensureParentId t).tells hmoves fun _ => rfl
  | beginSpan t b parent => exact (idles_beginSpanIn t b parent).tells hmoves fun _ => rfl
  | changeSpan s c => exact (idles_changeSpan s c).tells hmoves fun _ => rfl
  | outboundOfSpan s => exact (idles_outboundOfSpan s).tells hmoves fun _ => rfl
  | captureError | captureMessage =>
    exact tells_of_transactions_eq (transactions_enqueue _ _ _) fun _ => rfl
  | shutdown =>
    exact tells_of_transactions_eq (transactions_noteAll _ _) fun _ => rfl

/-- The story has a chronicle for each transaction. -/
structure Chronicled (a : Agent) (S : Story) : Prop where
  known : ∀ {t tx}, a.transaction? t = some tx → tx.Chronicled (S.of t)
  unknown : ∀ {t}, a.transaction? t = none → S.of t = []

theorem Tells.chronicled {S S' : Story} (h : Tells a S' a') (hov : a'.overflowed = false)
    (hc : a.Chronicled S) : a'.Chronicled (S ++ S') where
  known := fun {t tx'} htx' => by
    rw [Story.of_append]
    cases htx : a.transaction? t with
    | none =>
      rw [hc.unknown htx, (h.new htx).1]
      exact Transaction.chronicled_of_isNew ((h.new htx).2 tx' htx')
    | some tx =>
      obtain ⟨tx'', htx'', htold⟩ := h.old htx
      obtain rfl := Option.some.inj (htx''.symm.trans htx')
      exact htold.chronicled (overflowed_eq_false_iff.mp hov htx') (hc.known htx)
  unknown := fun {t} hnone => by
    rw [Story.of_append]
    cases htx : a.transaction? t with
    | none => rw [hc.unknown htx, (h.new htx).1, List.append_nil]
    | some tx =>
      obtain ⟨tx', htx', -⟩ := h.old htx
      cases htx'.symm.trans hnone

theorem overflowed_of_foldl {actions : List Action}
    (hov : (actions.foldl perform a).overflowed = false) : a.overflowed = false := by
  rw [← agent_run] at hov
  exact History.overflowed_of_foldl hov

theorem Chronicled.foldl {S : Story} {actions : List Action} (hc : a.Chronicled S)
    (hov : (actions.foldl perform a).overflowed = false) :
    (actions.foldl perform a).Chronicled (S ++ a.story actions) := by
  induction actions generalizing a S with
  | nil => simpa [story] using hc
  | cons act rest ih =>
    rw [story, ← List.append_assoc]
    exact ih ((a.perform_tells act).chronicled (overflowed_of_foldl hov) hc) hov

/-- **The story of a run** has a chronicle for each transaction. -/
theorem story_chronicled {actions : List Action} (hnone : a.transactions = #[])
    (hov : (a.run actions).agent.overflowed = false) :
    (a.run actions).agent.Chronicled (a.story actions) := by
  have hinit : a.Chronicled [] :=
    { known := fun {t tx} htx => by simp [transaction?, hnone] at htx
      unknown := fun _ => rfl }
  rw [agent_run] at hov ⊢
  exact hinit.foldl hov

/-! ### The events that reach the queue -/

/-- If the queue keeps everything, these events have been added to it, redacted. -/
def Received (a : Agent) (events : List Event) (a' : Agent) : Prop :=
  ∀ q, a.queue = .memory q → ∃ q', a'.queue = .memory q' ∧ q'.chain = q.chain ∧
    q'.events = q.events ++ events.map q.chain.process

theorem received_of_queue_eq (h : a'.queue = a.queue) : Received a [] a' :=
  fun q hq => ⟨q, h.trans hq, rfl, (List.append_nil _).symm⟩

theorem Received.trans {b : Agent} {events events' : List Event} (h : Received a events b)
    (h' : Received b events' a') : Received a (events ++ events') a' := by
  intro q hq
  obtain ⟨r, hr, hchain, hevents⟩ := h q hq
  obtain ⟨r', hr', hchain', hevents'⟩ := h' r hr
  refine ⟨r', hr', hchain'.trans hchain, ?_⟩
  rw [hevents', hevents, hchain, List.map_append, List.append_assoc]

theorem received_enqueue (a : Agent) (e : Event) (flush : Bool) :
    Received a [e] (a.enqueue e flush) := by
  intro q hq
  exact ⟨q.put e flush, by simp [enqueue, hq, Queue.put], rfl, q.events_put e flush⟩

theorem received_enqueueAll (a : Agent) (events : List Event) :
    Received a events (a.enqueueAll events) := by
  induction events generalizing a with
  | nil => exact received_of_queue_eq rfl
  | cons e rest ih => exact (a.received_enqueue e false).trans (ih _)

/-- Transactions may be exchanged before events are handed to the queue. -/
theorem Aside.received {b : Agent} (h : Aside a b) (t : TransactionRef) (tx : Transaction)
    (events : List Event) :
    Received a events ((b.modifyTransaction t fun _ => tx).enqueueAll events) := fun q hq =>
  received_enqueueAll _ events q (h.queue.trans hq)

theorem received_finishTransaction (t : TransactionRef) (result name : Option String)
    (hov : (a.finishTransaction t result name).1.overflowed = false) :
    Received a (a.happenings (.finishTransaction t result name)).events
      (a.finishTransaction t result name).1 := by
  cases htx : a.transaction? t with
  | none =>
    simp only [happenings, finishTransaction, htx]
    exact received_of_queue_eq rfl
  | some tx =>
    cases hended : tx.ended with
    | true =>
      simp only [happenings, finishTransaction, htx, hended, if_true, Transaction.chronicleAtEnd]
      exact received_of_queue_eq rfl
    | false =>
      simp only [happenings, finishTransaction, htx, hended, Bool.false_eq_true, if_false] at hov ⊢
      have htx' := ((Aside.refl a).exchange htx (tx.finish result name a.now).1
        (tx.finish result name a.now).2).1
      rw [Story.events_ofChronicle,
        Transaction.events_chronicleAtEnd hended (overflowed_eq_false_iff.mp hov htx')]
      exact (Aside.refl a).received t _ _

theorem received_endSpan (t : TransactionRef) (i : Nat) (default : Outcome)
    (hov : (a.endSpan (.recording t i) default).overflowed = false) :
    Received a (a.happenings (.endSpan (.recording t i) default)).events
      (a.endSpan (.recording t i) default) := by
  cases htx : a.transaction? t with
  | none =>
    simp only [happenings, endSpan, htx]
    exact received_of_queue_eq rfl
  | some tx =>
    cases hlive : tx.liveSpan? i with
    | none =>
      have haside := aside_endSpan_of_not_live htx hlive default
      simp only [happenings, htx, Transaction.chronicleOfSpan, hlive]
      exact received_of_queue_eq haside.queue
    | some sd =>
      obtain ⟨frameRequests, heq⟩ := endSpan_of_live htx hlive default
      rw [heq] at hov ⊢
      have haside : Aside a { a with frameRequests } := ⟨rfl, rfl⟩
      have htx' := (haside.exchange htx (tx.endSpan i default a.now (a.framesFor tx i)).1
        ((tx.endSpan i default a.now (a.framesFor tx i)).2.map .span)).1
      simp only [happenings, htx]
      rw [Story.events_ofChronicle,
        Transaction.events_chronicleOfSpan hlive (overflowed_eq_false_iff.mp hov htx')]
      exact haside.received t _ _

theorem received_queueError (a : Agent) (culprit : Option String)
    (exception : Option ExceptionRecord) (log : Option LogRecord) (flush : Bool) :
    Received a [.error (a.errorRecord culprit exception log)]
      (a.queueError culprit exception log flush).1 := by
  intro q hq
  rw [queueError_eq]
  exact received_enqueue _ _ flush q hq

/-- **What reaches a queue that keeps everything** are the events of what happens. -/
theorem perform_received (a : Agent) (act : Action) (hov : (a.perform act).overflowed = false) :
    Received a (a.happenings act).events (a.perform act) := by
  cases act with
  | finishTransaction t result name => exact received_finishTransaction t result name hov
  | endSpan s default =>
    cases s with
    | recording t i => exact received_endSpan t i default hov
    | standIn t i =>
      have hevents : (a.happenings (.endSpan (.standIn t i) default)).events = [] := by
        simp only [happenings]
        split
        · rename_i tx _
          rw [Story.events_ofChronicle]
          rcases tx.chronicleOfStandIn_cases i a.now with heq | ⟨d, heq⟩ <;> rw [heq] <;> rfl
        · rfl
      rw [hevents]
      exact received_of_queue_eq rfl
    | detached => exact received_of_queue_eq rfl
  | captureError =>
    intro q hq
    exact received_queueError _ _ _ _ _ q hq
  | captureMessage =>
    intro q hq
    exact received_queueError _ _ _ _ _ q hq
  | beginTransaction b =>
    obtain ⟨_, -, -, -, -, hqueue⟩ := a.beginTransaction_eq b
    exact received_of_queue_eq hqueue
  | advance | moveTo | updateConfig | switchThread | setTransaction | setSpan =>
    exact received_of_queue_eq rfl
  | attach c => exact received_of_queue_eq (aside_attach a c).queue
  | dropGuard g => exact received_of_queue_eq (aside_dropGuard a g).queue
  | changeTransaction t c =>
    refine received_of_queue_eq ?_
    cases c <;> exact queue_reviseTransaction t _
  | ensureParentId t => exact received_of_queue_eq (queue_ensureParentId t)
  | beginSpan t b parent => exact received_of_queue_eq (queue_beginSpanIn t b parent)
  | changeSpan s c => exact received_of_queue_eq (queue_changeSpan s c)
  | outboundOfSpan s => exact received_of_queue_eq (queue_outboundOfSpan s)
  | forceFlush =>
    intro q hq
    refine ⟨q, ?_, rfl, (List.append_nil _).symm⟩
    simp [perform, Agent.forceFlush, hq, Queue.forceFlush]
  | shutdown =>
    intro q hq
    refine ⟨q, ?_, rfl, (List.append_nil _).symm⟩
    simp [perform, Agent.shutdown, hq, Queue.shutdown]

theorem received_foldl {actions : List Action}
    (hov : (actions.foldl perform a).overflowed = false) :
    Received a (a.story actions).events (actions.foldl perform a) := by
  induction actions generalizing a with
  | nil => exact received_of_queue_eq rfl
  | cons act rest ih =>
    rw [story, Story.events_append]
    exact (a.perform_received act (overflowed_of_foldl hov)).trans (ih hov)

/-- **A queue that keeps everything** has the events of the story after all runs. -/
theorem story_received {actions : List Action} (hov : (a.run actions).agent.overflowed = false) :
    a.Received (a.story actions).events (a.run actions).agent := by
  rw [agent_run] at hov ⊢
  exact received_foldl hov

end Agent

end Telemetry
