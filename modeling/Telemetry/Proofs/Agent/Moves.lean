import Telemetry.Proofs.Agent.Actions

/-!
# Actions, seen from each transaction

Whatever happens to an agent, each of its transactions takes one step, most often that of staying as
it is. Spans are opened only beneath spans of the same transaction that are no leaves. This is where
handles come in: a handle of another transaction encloses nothing, and one of a leaf encloses
nothing that is recorded.

## Main definitions

* `Transaction.IsNew`.
* `Agent.Aside`: an operation touches neither transactions nor the queue.
* `Agent.Inward`: an operation touches neither the settings nor the sampler nor what is current.
* `Agent.Moves`.

## Main results

* `Agent.mayEnclose_of_admission`: what is admitted lies beneath a span that may enclose it.
* `Agent.finishTransaction_cases`, `Agent.endSpan_cases`: what the two that release spans come to.
* `Agent.perform_moves`: every transaction takes a step.
-/

namespace Telemetry

/-! ### What operations leave alone -/

/-- A transaction that has just begun. -/
structure Transaction.IsNew (t : Transaction) : Prop where
  created : t.created = 0
  started : t.started = 0
  dropped : t.dropped = 0
  stats : t.stats = []
  spans : t.spans = #[]
  standIns : t.standIns = #[]
  slot : t.buffer.slot = none
  ended : t.ended = false
  overflowed : t.overflowed = false

theorem Transaction.isNew_create (id : SpanId) (kind : String) (tp : TraceParent)
    (sampleRate : Option Float) (links : List Link) (backdated : Option Instant) (limits : Limits)
    (now wall : Instant) :
    (create id kind tp sampleRate links backdated limits now wall).IsNew :=
  ⟨rfl, rfl, rfl, rfl, rfl, rfl, rfl, rfl, rfl⟩

/-- Only a span of the transaction itself comes to enclose another. -/
theorem Transaction.eq_span_of_admission {t : Transaction} {e : Enclosing} {i : Nat}
    (h : t.admission e = .ok (some i)) : e = .span i := by
  unfold admission at h
  split at h
  · cases h
  cases e <;> dsimp only at h
  case transaction => split at h <;> cases h
  case span place =>
    split at h <;> cases h
    rfl
  case leaf => cases h
  case standIn reason => cases h

namespace Agent

variable {a a' : Agent} {t : TransactionRef} {tx : Transaction}

/-! ### Reports and the queue -/

/-- Reporting changes nothing but the reports. -/
theorem noteAll_eq (a : Agent) (ns : List Notice) :
    ∃ notices, a.noteAll ns = { a with notices } := by
  induction ns generalizing a with
  | nil => exact ⟨a.notices, rfl⟩
  | cons n rest ih =>
    obtain ⟨notices, heq⟩ := ih (a.note n)
    exact ⟨notices, heq⟩

/-- Handing an event over changes nothing but the queue and the reports. -/
theorem enqueue_eq (a : Agent) (e : Event) (flush : Bool) :
    ∃ queue notices, a.enqueue e flush = { a with queue, notices } := by
  obtain ⟨notices, heq⟩ := noteAll_eq { a with queue := (a.queue.put e flush).1 } _
  exact ⟨_, notices, heq⟩

theorem enqueueAll_eq (a : Agent) (events : List Event) :
    ∃ queue notices, a.enqueueAll events = { a with queue, notices } := by
  induction events generalizing a with
  | nil => exact ⟨a.queue, a.notices, rfl⟩
  | cons e rest ih =>
    have hcons : a.enqueueAll (e :: rest) = (a.enqueue e false).enqueueAll rest := rfl
    obtain ⟨_, _, hfirst⟩ := a.enqueue_eq e false
    rw [hcons, hfirst]
    exact ih _

/-- An operation touches neither transactions nor the queue. -/
structure Aside (a a' : Agent) : Prop where
  transactions : a'.transactions = a.transactions
  queue : a'.queue = a.queue

theorem Aside.refl (a : Agent) : Aside a a := ⟨rfl, rfl⟩

@[simp] theorem transactions_noteAll (a : Agent) (ns : List Notice) :
    (a.noteAll ns).transactions = a.transactions := by
  obtain ⟨_, heq⟩ := a.noteAll_eq ns
  rw [heq]

@[simp] theorem queue_noteAll (a : Agent) (ns : List Notice) :
    (a.noteAll ns).queue = a.queue := by
  obtain ⟨_, heq⟩ := a.noteAll_eq ns
  rw [heq]

theorem aside_attach (a : Agent) (c : Context) : Aside a (a.attach c).1 :=
  ⟨by simp [attach, takeContexts], by simp [attach, takeContexts]⟩

theorem aside_dropGuard (a : Agent) (g : Guard) : Aside a (a.dropGuard g) :=
  ⟨by simp [dropGuard, takeContexts], by simp [dropGuard, takeContexts]⟩

theorem aside_newTrace (a : Agent) (id : SpanId) : Aside a (a.newTrace id).1 :=
  ⟨by simp [newTrace, freshTraceId], by simp [newTrace, freshTraceId]⟩

theorem aside_traceFor (a : Agent) (b : TransactionBuilder) (id : SpanId) :
    Aside a (a.traceFor b id).1 := by
  unfold traceFor
  split
  · exact aside_newTrace a id
  split
  · exact ⟨by simp, by simp⟩
  · obtain ⟨htransactions, hqueue⟩ := aside_newTrace (a.note (.traceRestarted _)) id
    exact ⟨htransactions, hqueue⟩

@[simp] theorem transactions_enqueue (a : Agent) (e : Event) (flush : Bool) :
    (a.enqueue e flush).transactions = a.transactions := by
  simp [enqueue]

@[simp] theorem transactions_enqueueAll (a : Agent) (events : List Event) :
    (a.enqueueAll events).transactions = a.transactions := by
  obtain ⟨_, _, heq⟩ := a.enqueueAll_eq events
  rw [heq]

/-- An operation touches neither the settings nor the sampler, nor what is current. -/
structure Inward (a a' : Agent) : Prop where
  config : a'.config = a.config
  sampler : a'.sampler = a.sampler
  contexts : a'.contexts = a.contexts

theorem Inward.refl (a : Agent) : Inward a a := ⟨rfl, rfl, rfl⟩

theorem Inward.trans {a'' : Agent} (h : Inward a a') (h' : Inward a' a'') : Inward a a'' :=
  ⟨h'.config.trans h.config, h'.sampler.trans h.sampler, h'.contexts.trans h.contexts⟩

theorem inward_modifyTransaction (a : Agent) (t : TransactionRef) (f : Transaction → Transaction) :
    Inward a (a.modifyTransaction t f) := ⟨rfl, rfl, rfl⟩

theorem inward_noteAll (a : Agent) (ns : List Notice) : Inward a (a.noteAll ns) := by
  obtain ⟨_, heq⟩ := a.noteAll_eq ns
  rw [heq]
  exact ⟨rfl, rfl, rfl⟩

theorem inward_enqueue (a : Agent) (e : Event) (flush : Bool) :
    Inward a (a.enqueue e flush) := by
  obtain ⟨_, _, heq⟩ := a.enqueue_eq e flush
  rw [heq]
  exact ⟨rfl, rfl, rfl⟩

theorem inward_enqueueAll (a : Agent) (events : List Event) : Inward a (a.enqueueAll events) := by
  obtain ⟨_, _, heq⟩ := a.enqueueAll_eq events
  rw [heq]
  exact ⟨rfl, rfl, rfl⟩

theorem inward_changeTransaction (a : Agent) (t : TransactionRef) (c : TransactionChange) :
    Inward a (a.changeTransaction t c) := by
  have hrevise : ∀ f, Inward a (a.reviseTransaction t f) := by
    intro f
    unfold reviseTransaction
    split
    · exact .refl a
    · split <;> exact ⟨rfl, rfl, rfl⟩
  cases c <;> exact hrevise _

theorem inward_ensureParentId (a : Agent) (t : TransactionRef) :
    Inward a (a.ensureParentId t).1 := by
  unfold ensureParentId
  split
  · exact .refl a
  · split <;> exact ⟨rfl, rfl, rfl⟩

theorem inward_finishTransaction (a : Agent) (t : TransactionRef) (result name : Option String) :
    Inward a (a.finishTransaction t result name).1 := by
  unfold finishTransaction
  split
  · exact .refl a
  · split
    · exact ⟨rfl, rfl, rfl⟩
    · exact (inward_modifyTransaction a t _).trans (inward_enqueueAll _ _)

theorem inward_beginSpanIn (a : Agent) (t : TransactionRef) (b : SpanBuilder)
    (parent : Option SpanHandle) : Inward a (a.beginSpanIn t b parent).1 := by
  unfold beginSpanIn
  split
  · exact .refl a
  · split
    · exact ⟨rfl, rfl, rfl⟩
    · exact (inward_modifyTransaction a t _).trans (inward_noteAll _ _)

theorem inward_changeSpan (a : Agent) (s : SpanHandle) (c : SpanChange) :
    Inward a (a.changeSpan s c) := by
  cases c <;> cases s <;> exact ⟨rfl, rfl, rfl⟩

theorem inward_outboundOfSpan (a : Agent) (s : SpanHandle) :
    Inward a (a.outboundOfSpan s).1 := by
  cases s with
  | detached | standIn => exact .refl a
  | recording t i =>
    unfold outboundOfSpan
    dsimp only
    split <;> exact ⟨rfl, rfl, rfl⟩

theorem inward_endSpan (a : Agent) (s : SpanHandle) (default : Outcome) :
    Inward a (a.endSpan s default) := by
  cases s with
  | detached | standIn => exact ⟨rfl, rfl, rfl⟩
  | recording t i =>
    simp only [endSpan]
    split
    · exact .refl a
    · split
      · exact .refl a
      · split
        · exact ⟨rfl, rfl, rfl⟩
        · refine .trans ?_ (inward_enqueueAll _ _)
          split <;> exact ⟨rfl, rfl, rfl⟩

theorem inward_queueError (a : Agent) (culprit : Option String)
    (exception : Option ExceptionRecord) (log : Option LogRecord) (flush : Bool) :
    Inward a (a.queueError culprit exception log flush).1 :=
  have hnoted : Inward a (a.freshTraceId.1.note (.errorCaptured a.freshTraceId.2 flush)) :=
    ⟨rfl, rfl, rfl⟩
  hnoted.trans (inward_enqueue _ _ _)

/-- A transaction begins in the place after all others. -/
theorem beginTransaction_eq (a : Agent) (b : TransactionBuilder) :
    ∃ tx : Transaction, tx.IsNew ∧ tx.limits = a.config.current.limits ∧
      (a.beginTransaction b).1.transactions = a.transactions.push tx ∧
      (a.beginTransaction b).2 = a.transactions.size ∧
      (a.beginTransaction b).1.queue = a.queue := by
  obtain ⟨htransactions, hqueue⟩ := aside_traceFor a.freshSpanId.1 b a.freshSpanId.2
  generalize hr : a.freshSpanId.1.traceFor b a.freshSpanId.2 = r at htransactions hqueue
  refine ⟨.create a.freshSpanId.2 b.kind r.2.1 r.2.2.1 r.2.2.2 b.start a.config.current.limits
    r.1.now r.1.wall, Transaction.isNew_create .., rfl, ?_, ?_, ?_⟩
  · simp only [beginTransaction, hr]
    split <;> exact congrArg (Array.push · _) htransactions
  · simp only [beginTransaction, hr]
    exact congrArg Array.size htransactions
  · simp only [beginTransaction, hr]
    split <;> exact hqueue

/-- The transaction that begins is found under the name that is returned. -/
theorem exists_begun (a : Agent) (b : TransactionBuilder) :
    ∃ tx, (a.beginTransaction b).1.transaction? (a.beginTransaction b).2 = some tx ∧ tx.IsNew ∧
      tx.limits = a.config.current.limits := by
  obtain ⟨tx, hnew, hlimits, htransactions, hplace, -⟩ := a.beginTransaction_eq b
  refine ⟨tx, ?_, hnew, hlimits⟩
  rw [transaction?, htransactions, hplace, Array.getElem?_push_size]

theorem transaction?_modifyTransaction (htx : a.transaction? t = some tx)
    (f : Transaction → Transaction) :
    (a.modifyTransaction t f).transaction? t = some (f tx) := by
  rw [transaction?, modifyTransaction, Array.getElem?_modify, if_pos rfl, ← transaction?, htx]
  rfl

/-! ### One operation, seen from each transaction -/

/-- Every transaction takes a step and releases what the ledger says of it. One that was not there
before is new. -/
structure Moves (a : Agent) (L : Ledger) (a' : Agent) : Prop where
  old : ∀ {t tx}, a.transaction? t = some tx →
    ∃ tx', a'.transaction? t = some tx' ∧ tx.Step (L.journal t) tx'
  new : ∀ {t}, a.transaction? t = none → L.journal t = [] ∧ ∀ tx ∈ a'.transaction? t, tx.IsNew

theorem moves_of_transactions_eq (h : a'.transactions = a.transactions) : Moves a [] a' where
  old := fun {t tx} htx => ⟨tx, by rwa [transaction?, h], .idle⟩
  new := fun {t} hnone => ⟨rfl, by rw [transaction?, h, ← transaction?, hnone]; simp⟩

theorem Aside.moves (h : Aside a a') : Moves a [] a' := moves_of_transactions_eq h.transactions

theorem moves_push (h : a'.transactions = a.transactions.push tx) (hnew : tx.IsNew) :
    Moves a [] a' where
  old := by
    intro t tx' htx
    have hlt : t < a.transactions.size := (Array.getElem?_eq_some_iff.mp htx).1
    refine ⟨tx', ?_, .idle⟩
    rwa [transaction?, h, Array.getElem?_push_lt hlt, ← Array.getElem?_eq_getElem]
  new := by
    intro t hnone
    refine ⟨rfl, fun tx' htx' => ?_⟩
    rw [transaction?, h, Array.getElem?_push] at htx'
    split at htx'
    · rwa [← Option.mem_some.mp htx']
    · rw [← transaction?, hnone] at htx'
      cases htx'

/-- One transaction takes a step and the others stay as they are. -/
theorem moves_modify {f : Transaction → Transaction} {J : Journal}
    (h : a'.transactions = a.transactions.modify t f)
    (hstep : ∀ tx, a.transaction? t = some tx → tx.Step J (f tx))
    (hJ : a.transaction? t = none → J = []) : Moves a (.ofJournal t J) a' where
  old := by
    intro u tx htx
    rw [Ledger.journal_ofJournal, transaction?, h, Array.getElem?_modify]
    by_cases htu : t = u
    · subst htu
      rw [if_pos rfl, if_pos rfl, ← transaction?, htx]
      exact ⟨f tx, rfl, hstep tx htx⟩
    · rw [if_neg htu, if_neg htu]
      exact ⟨tx, htx, .idle⟩
  new := by
    intro u hnone
    rw [Ledger.journal_ofJournal, transaction?, h, Array.getElem?_modify, ← transaction?, hnone]
    by_cases htu : t = u
    · subst htu
      simp [hJ hnone]
    · simp [htu]

/-- One known transaction is exchanged for what becomes of it in a step. -/
theorem moves_exchange {tx' : Transaction} {J : Journal} (htx : a.transaction? t = some tx)
    (h : a'.transactions = a.transactions.modify t fun _ => tx') (hstep : tx.Step J tx') :
    Moves a (.ofJournal t J) a' := by
  refine moves_modify h (fun u hu => ?_) fun hnone => ?_
  · obtain rfl := Option.some.inj (htx.symm.trans hu)
    exact hstep
  · cases htx.symm.trans hnone

theorem moves_reviseTransaction (t : TransactionRef) (f : Details → Details) :
    Moves a [] (a.reviseTransaction t f) := by
  unfold reviseTransaction
  split
  · exact moves_of_transactions_eq rfl
  split
  · exact moves_of_transactions_eq rfl
  · exact moves_modify rfl (fun tx _ => .revise f) fun _ => rfl

theorem moves_changeTransaction (t : TransactionRef) (c : TransactionChange) :
    Moves a [] (a.changeTransaction t c) := by
  cases c <;> exact moves_reviseTransaction t _

theorem moves_ensureParentId (t : TransactionRef) : Moves a [] (a.ensureParentId t).1 := by
  unfold ensureParentId
  split
  · exact moves_of_transactions_eq rfl
  rename_i tx htx
  split
  · rename_i hroot
    refine moves_modify (f := (·.withCaller a.freshSpanId.2)) rfl (fun tx' htx' => ?_) fun _ => rfl
    obtain rfl := Option.some.inj (htx.symm.trans htx')
    exact .withCaller hroot _
  · exact moves_of_transactions_eq rfl

/-- What ending a transaction comes down to. -/
theorem finishTransaction_cases (a : Agent) (t : TransactionRef) (result name : Option String) :
    (a.releases (.finishTransaction t result name) = [] ∧
      Aside a (a.finishTransaction t result name).1) ∨
    ∃ tx, a.transaction? t = some tx ∧ tx.ended = false ∧
      a.releases (.finishTransaction t result name) =
        .ofJournal t (tx.leavingAtEnd.map tx.release) ∧
      (a.finishTransaction t result name).1 =
        (a.modifyTransaction t fun _ => (tx.finish result name a.now).1).enqueueAll
          (tx.finish result name a.now).2 := by
  cases htx : a.transaction? t with
  | none =>
    refine .inl ⟨by simp only [releases, htx], ?_⟩
    simp only [finishTransaction, htx]
    exact .refl a
  | some tx =>
    cases hended : tx.ended with
    | true =>
      refine .inl ⟨?_, ?_⟩
      · simp [releases, htx, Transaction.leavingAtEnd, hended, Ledger.ofJournal]
      · simp only [finishTransaction, htx, hended, if_true]
        exact ⟨rfl, rfl⟩
    | false =>
      refine .inr ⟨tx, rfl, hended, by simp only [releases, htx], ?_⟩
      simp only [finishTransaction, htx, hended, Bool.false_eq_true, if_false]

theorem moves_finishTransaction (t : TransactionRef) (result name : Option String) :
    Moves a (a.releases (.finishTransaction t result name))
      (a.finishTransaction t result name).1 := by
  rcases a.finishTransaction_cases t result name with
    ⟨hreleases, haside⟩ | ⟨tx, htx, -, hreleases, heq⟩ <;> rw [hreleases]
  · exact haside.moves
  · rw [heq]
    exact moves_exchange htx (transactions_enqueueAll _ _) (.finish result name a.now)

theorem enclosing_recording (htx : a.transaction? t = some tx) {i : Nat} {s : Span}
    (hs : tx.spans[i]? = some s) :
    a.enclosing t (some (.recording t i)) = if s.leaf then .leaf else .span i := by
  have hfound : a.span? (.recording t i) = some s := by simp [span?, htx, hs]
  simp only [enclosing, hfound, if_true]

theorem enclosing_standIn (htx : a.transaction? t = some tx) {i : Nat} {s : StandIn}
    (hs : tx.standIns[i]? = some s) :
    a.enclosing t (some (.standIn t i)) = .standIn s.reason := by
  have hfound : a.standIn? (.standIn t i) = some s := by simp [standIn?, htx, hs]
  simp only [enclosing, hfound]

/-- What is admitted lies beneath a span of the transaction that may enclose it. -/
theorem mayEnclose_of_admission (htx : a.transaction? t = some tx) {parent : Option SpanHandle}
    {p : Option Nat} (h : tx.admission (a.enclosing t parent) = .ok p) : tx.MayEnclose p := by
  intro i hi
  obtain rfl := Option.mem_def.mp hi
  have henclosing := Transaction.eq_span_of_admission h
  unfold enclosing at henclosing
  split at henclosing
  · cases henclosing
  · cases henclosing
  · split at henclosing <;> cases henclosing
  · rename_i u j
    cases hs : a.span? (.recording u j) with
    | none => simp [hs] at henclosing
    | some s =>
      cases hleaf : s.leaf with
      | true => simp [hs, hleaf] at henclosing
      | false =>
        simp only [hs, hleaf, Bool.false_eq_true, if_false] at henclosing
        split at henclosing
        · rename_i hu
          obtain rfl := hu
          obtain rfl : j = i := by cases henclosing; rfl
          refine ⟨s.outline, ?_, hleaf⟩
          simpa [Transaction.outlines, span?, htx] using ⟨s, by simpa [span?, htx] using hs, rfl⟩
        · cases henclosing

/-- A span that is admitted takes an identifier and the next place. -/
theorem beginSpanIn_of_admitted (htx : a.transaction? t = some tx) {b : SpanBuilder}
    {parent : Option SpanHandle} {place : Option Nat}
    (h : tx.admission (a.enclosing t parent) = .ok place) :
    a.beginSpanIn t b parent =
      (a.freshSpanId.1.modifyTransaction t (·.openSpan b place a.freshSpanId.2 a.now),
        .recording t tx.spans.size) := by
  simp only [beginSpanIn, htx, h]

/-- For a span that is refused a stand-in takes the next place. -/
theorem beginSpanIn_of_refused (htx : a.transaction? t = some tx) {b : SpanBuilder}
    {parent : Option SpanHandle} {reason : DropReason}
    (h : tx.admission (a.enclosing t parent) = .error reason) :
    ∃ ns, a.beginSpanIn t b parent =
      ((a.modifyTransaction t (·.openStandIn b reason a.now)).noteAll ns,
        .standIn t tx.standIns.size) := by
  simp only [beginSpanIn, htx, h]
  exact ⟨_, rfl⟩

theorem moves_beginSpanIn (t : TransactionRef) (b : SpanBuilder) (parent : Option SpanHandle) :
    Moves a [] (a.beginSpanIn t b parent).1 := by
  cases htx : a.transaction? t with
  | none =>
    simp only [beginSpanIn, htx]
    exact moves_of_transactions_eq rfl
  | some tx =>
    cases hadmission : tx.admission (a.enclosing t parent) with
    | ok place =>
      have hstep : tx.Step [] (tx.openSpan b place a.freshSpanId.2 a.now) :=
        .openSpan _ b place _ _ hadmission (mayEnclose_of_admission htx hadmission)
      rw [beginSpanIn_of_admitted htx hadmission]
      refine moves_modify (f := (·.openSpan b place a.freshSpanId.2 a.now)) rfl (fun tx' htx' => ?_)
        fun _ => rfl
      rwa [← Option.some.inj (htx.symm.trans htx')]
    | error reason =>
      have hstep : tx.Step [] (tx.openStandIn b reason a.now) :=
        .openStandIn _ b reason _ hadmission
      obtain ⟨ns, heq⟩ := beginSpanIn_of_refused (b := b) htx hadmission
      rw [heq]
      refine moves_modify (f := (·.openStandIn b reason a.now)) (transactions_noteAll _ _)
        (fun tx' htx' => ?_) fun _ => rfl
      rwa [← Option.some.inj (htx.symm.trans htx')]

theorem moves_reviseSpan (s : SpanHandle) {f : SpanDetails → SpanDetails}
    (hpropagated : ∀ d, d.propagated = true → (f d).propagated = true) :
    Moves a [] (a.reviseSpan s f) := by
  cases s with
  | recording t i => exact moves_modify rfl (fun tx _ => .reviseSpan i f hpropagated) fun _ => rfl
  | standIn => exact moves_of_transactions_eq rfl
  | detached => exact moves_of_transactions_eq rfl

theorem moves_changeSpan (s : SpanHandle) (c : SpanChange) : Moves a [] (a.changeSpan s c) := by
  cases c with
  | outcome outcome =>
    cases s with
    | standIn t i => exact moves_modify rfl (fun tx _ => .reviseStandIn i outcome) fun _ => rfl
    | recording t i => exact moves_reviseSpan (.recording t i) fun _ h => h
    | detached => exact moves_of_transactions_eq rfl
  | name | context | label | link => exact moves_reviseSpan s fun _ h => h

theorem moves_outboundOfSpan (s : SpanHandle) : Moves a [] (a.outboundOfSpan s).1 := by
  cases s with
  | recording t i =>
    unfold outboundOfSpan
    dsimp only
    split
    · exact moves_of_transactions_eq rfl
    · refine moves_modify (f := fun tx => (tx.outboundOf i).1) rfl (fun tx' _ => ?_) fun _ => rfl
      unfold Transaction.outboundOf
      split
      · exact .reviseSpan i _ fun _ _ => rfl
      · exact .idle
  | standIn => exact moves_of_transactions_eq rfl
  | detached => exact moves_of_transactions_eq rfl

theorem aside_endSpan_of_not_live {i : Nat} (htx : a.transaction? t = some tx)
    (hlive : tx.liveSpan? i = none) (default : Outcome) :
    Aside a (a.endSpan (.recording t i) default) := by
  cases hs : tx.spans[i]? with
  | none =>
    simp only [endSpan, htx, hs]
    exact .refl a
  | some s =>
    have hended : s.ended = true := by
      simpa [Transaction.liveSpan?, hs, Span.ended] using hlive
    simp only [endSpan, htx, hs, hended, if_true]
    exact ⟨rfl, rfl⟩

/-- Collecting frames leaves a request behind, and the transaction ends its span. -/
theorem endSpan_of_live {i : Nat} {s : Span} {d : SpanDetails} (htx : a.transaction? t = some tx)
    (hlive : tx.liveSpan? i = some (s, d)) (default : Outcome) :
    ∃ frameRequests, a.endSpan (.recording t i) default =
      ({ a with frameRequests }.modifyTransaction t fun _ =>
        (tx.endSpan i default a.now (a.framesFor tx i)).1).enqueueAll
          ((tx.endSpan i default a.now (a.framesFor tx i)).2.map .span) := by
  obtain ⟨hs, hd⟩ := Transaction.liveSpan?_eq_some_iff.mp hlive
  have hended : s.ended = false := by simp [Span.ended, hd]
  simp only [endSpan, htx, hs, hended, framesFor, Bool.false_eq_true, if_false]
  cases tx.framesWanted i a.now with
  | none => exact ⟨a.frameRequests, rfl⟩
  | some limit => exact ⟨a.frameRequests.push limit, rfl⟩

/-- What ending a recorded span comes down to. -/
theorem endSpan_cases (a : Agent) (t : TransactionRef) (i : Nat) (default : Outcome) :
    (a.releases (.endSpan (.recording t i) default) = [] ∧
      Aside a (a.endSpan (.recording t i) default)) ∨
    ∃ tx s d b, a.transaction? t = some tx ∧ tx.liveSpan? i = some (s, d) ∧ Aside a b ∧
      a.releases (.endSpan (.recording t i) default) =
        .ofJournal t ((tx.leaving i default a.now (a.framesFor tx i)).map tx.release) ∧
      a.endSpan (.recording t i) default =
        (b.modifyTransaction t fun _ =>
            (tx.endSpan i default a.now (a.framesFor tx i)).1).enqueueAll
          ((tx.endSpan i default a.now (a.framesFor tx i)).2.map .span) := by
  cases htx : a.transaction? t with
  | none =>
    refine .inl ⟨by simp only [releases, htx], ?_⟩
    simp only [endSpan, htx]
    exact .refl a
  | some tx =>
    cases hlive : tx.liveSpan? i with
    | none =>
      refine .inl ⟨?_, aside_endSpan_of_not_live htx hlive default⟩
      simp [releases, htx, Transaction.leaving, hlive, Ledger.ofJournal]
    | some sd =>
      obtain ⟨s, d⟩ := sd
      obtain ⟨frameRequests, heq⟩ := endSpan_of_live htx hlive default
      refine .inr ⟨tx, s, d, { a with frameRequests }, rfl, hlive, ⟨rfl, rfl⟩, ?_, heq⟩
      simp only [releases, htx]

theorem moves_endSpan (s : SpanHandle) (default : Outcome) :
    Moves a (a.releases (.endSpan s default)) (a.endSpan s default) := by
  cases s with
  | detached => exact moves_of_transactions_eq rfl
  | standIn t i => exact moves_modify rfl (fun tx _ => .endStandIn i default a.now) fun _ => rfl
  | recording t i =>
    rcases a.endSpan_cases t i default with
      ⟨hreleases, haside⟩ | ⟨tx, s, d, b, htx, -, haside, hreleases, heq⟩ <;> rw [hreleases]
    · exact haside.moves
    · rw [heq]
      refine moves_exchange htx ?_ (.endSpan i default a.now (a.framesFor tx i))
      rw [transactions_enqueueAll, modifyTransaction, haside.transactions]

/-- **One operation, seen from each transaction.** -/
theorem perform_moves (a : Agent) (act : Action) : Moves a (a.releases act) (a.perform act) := by
  cases act with
  | advance | moveTo | updateConfig | switchThread | setTransaction | setSpan =>
    exact moves_of_transactions_eq rfl
  | attach c => exact (aside_attach a c).moves
  | dropGuard g => exact (aside_dropGuard a g).moves
  | beginTransaction b =>
    obtain ⟨tx, hnew, -, htransactions, -⟩ := a.beginTransaction_eq b
    exact moves_push htransactions hnew
  | changeTransaction t c => exact moves_changeTransaction t c
  | ensureParentId t => exact moves_ensureParentId t
  | finishTransaction t result name => exact moves_finishTransaction t result name
  | beginSpan t b parent => exact moves_beginSpanIn t b parent
  | changeSpan s c => exact moves_changeSpan s c
  | outboundOfSpan s => exact moves_outboundOfSpan s
  | endSpan s default => exact moves_endSpan s default
  | captureError | captureMessage => exact moves_of_transactions_eq (transactions_enqueue _ _ _)
  | forceFlush => exact moves_of_transactions_eq rfl
  | shutdown => exact moves_of_transactions_eq (transactions_noteAll _ _)

end Agent

end Telemetry
