import Telemetry.Proofs.Agent.Shown
import Telemetry.Proofs.Agent.TaskIsolation
import Telemetry.Proofs.ContextStack.Confined
import Telemetry.Proofs.Transaction.Identity

/-!
# Operations within a transaction that is not sampled

Spans are opened beneath such a transaction, made current, changed and ended in any nesting, and it
is given a context and labels. None of this shows. Two things carry the argument: the transaction
has only stand-ins, whatever is done to it; and the contexts that come and go keep what is current,
for they name the same transaction, and as the current span none that is recorded.

## Main definitions

* `Operation`, `Agent.carryOut`: the operations, with those on what is current.
* `Operation.isInner`: an operation on spans, or with what a transaction keeps to itself.
* `Agent.fits`: an operation that leaves other transactions alone.
* `Agent.Quiet`: the invariant.

## Main results

* `Agent.Quiet.unseen`: inner operations do not show.
-/

namespace Telemetry

/-! ### Operations -/

/-- An action, or one of the operations on what is current. -/
inductive Operation
  | act (act : Action)
  /-- The current transaction ends, after which nothing is current. -/
  | endTransaction (result name : Option String)
  /-- A span is opened beneath what is current, and becomes current. -/
  | captureSpan (b : SpanBuilder)
  | leaveScope (s : SpanScope) (default : Outcome)

/-- The action opens, scopes, changes or ends a span, or asks it for the headers of a call, or adds
to the context or the labels of a transaction. -/
def Action.isInner : Action → Bool
  | .attach _ | .dropGuard _ | .setSpan _ => true
  | .beginSpan _ _ _ | .changeSpan _ _ | .outboundOfSpan _ | .endSpan _ _ => true
  | .changeTransaction _ (.context _ _) | .changeTransaction _ (.label _ _) => true
  | _ => false

namespace Operation

/-- The operation opens, scopes, changes or ends a span, or adds to the context or the labels of a
transaction. -/
def isInner : Operation → Bool
  | .act action => action.isInner
  | .captureSpan _ | .leaveScope _ _ => true
  | .endTransaction _ _ => false

/-- The operations but for the inner ones. -/
def outer (ops : List Operation) : List Operation := ops.filter (!·.isInner)

end Operation

/-- The handle is not that of a span of another transaction. -/
def SpanHandle.isWithin (t : TransactionRef) (s : SpanHandle) : Bool := s.transaction?.all (· = t)

namespace Agent

/-- The agent after an operation. -/
def carryOut (a : Agent) : Operation → Agent
  | .act act => a.perform act
  | .endTransaction result name => (a.endTransaction result name).1
  | .captureSpan b => (a.captureSpan b).1
  | .leaveScope s default => a.leaveScope s default

/-- The agent after several operations. -/
def carryOutAll (a : Agent) (ops : List Operation) : Agent := ops.foldl carryOut a

/-- The context is that of the current transaction, and its span is one of that transaction. -/
def keepsCurrent (a : Agent) (c : Context) : Bool :=
  a.transactionOf c = a.currentTransaction &&
    (a.transactionOf c).all fun u => c.span.all (·.isWithin u)

/-- The operation has to do with one transaction only, makes no other one current, and restores none
of the first `n` saved contexts. -/
def fits (a : Agent) (t : TransactionRef) (n : Nat) : Operation → Bool
  | .act act => match act with
    | .advance _ | .moveTo _ | .updateConfig _ => true
    | .captureError _ _ _ _ | .captureMessage _ _ => true
    | .attach c => a.keepsCurrent c
    | .setSpan s => a.keepsCurrent { a.context with span := s }
    | .dropGuard g => g.isAbove n
    | .changeTransaction u _ | .ensureParentId u | .finishTransaction u _ _ => u = t
    | .beginSpan u _ _ => u = t
    | .changeSpan s _ | .outboundOfSpan s | .endSpan s _ => s.isWithin t
    | .beginTransaction _ | .setTransaction _ | .switchThread _ | .forceFlush | .shutdown => false
  | .endTransaction _ _ | .captureSpan _ => true
  | .leaveScope s _ => s.span.isWithin t && s.guard.isAbove n

/-- Each operation fits when it is carried out. -/
def fitsAll (t : TransactionRef) (n : Nat) : Agent → List Operation → Bool
  | _, [] => true
  | a, op :: rest => a.fits t n op && (a.carryOut op).fitsAll t n rest

variable {a a' a'' : Agent} {t : TransactionRef} {tx : Transaction} {id : SpanId} {n : Nat}

/-! ### The invariant -/

/-- The transaction has nothing to show for its spans, nothing else is current, and nothing else
will be when guards are dropped that were handed out since the first `n` contexts were saved. -/
structure Quiet (t : TransactionRef) (id : SpanId) (n : Nat) (a : Agent) : Prop where
  own : ∃ tx, a.transaction? t = some tx ∧ tx.Silent ∧ tx.id = id
  current : ∀ u ∈ a.currentTransaction, u = t
  contexts : a.contexts.Confined (a.keepsCurrent · = true) n

theorem transactionOf_later (hlater : ∀ u, a.hasEnded u = true → a'.hasEnded u = true)
    (c : Context) :
    a'.transactionOf c = (a.transactionOf c).filter fun u => !a'.hasEnded u := by
  refine (filter_filter_of_imp (fun u hu => ?_) c.transaction).symm
  cases hended : a.hasEnded u with
  | false => rfl
  | true => simp [hlater u hended] at hu

theorem keepsCurrent_iff {c : Context} : a.keepsCurrent c = true ↔
    a.transactionOf c = a.currentTransaction ∧
      ∀ u ∈ a.transactionOf c, ∀ s ∈ c.span, s.isWithin u = true := by
  simp [keepsCurrent, Option.all_eq_true]

/-- The invariant is kept as more transactions end. -/
theorem Quiet.later (h : a.Quiet t id n)
    (hown : ∃ tx, a'.transaction? t = some tx ∧ tx.Silent ∧ tx.id = id)
    (hlater : ∀ u, a.hasEnded u = true → a'.hasEnded u = true)
    (hcontexts : a'.contexts.Confined (a.keepsCurrent · = true) n) : a'.Quiet t id n := by
  have hcurrent : a'.currentTransaction = a.currentTransaction.filter fun u => !a'.hasEnded u := by
    have hkept : a.transactionOf a'.context = a.currentTransaction :=
      (keepsCurrent_iff.mp hcontexts.current).1
    rw [currentTransaction, transactionOf_later hlater, hkept]
  refine ⟨hown, fun u hu => h.current u ?_, hcontexts.mono fun c hc => ?_⟩
  · rw [hcurrent] at hu
    exact (Option.filter_eq_some_iff.mp hu).1
  · obtain ⟨hsame, hspan⟩ := keepsCurrent_iff.mp hc
    rw [keepsCurrent_iff, transactionOf_later hlater, hsame, hcurrent]
    refine ⟨rfl, fun u hu => hspan u ?_⟩
    rw [hsame]
    exact (Option.filter_eq_some_iff.mp hu).1

theorem hasEnded_perform (act : Action) {u : TransactionRef} (h : a.hasEnded u = true) :
    (a.perform act).hasEnded u = true := by
  rw [hasEnded_eq] at h ⊢
  cases htx : a.transaction? u with
  | none => simp [htx] at h
  | some tx =>
    obtain ⟨tx', htx', hstep⟩ := (a.perform_moves act).old htx
    rw [htx']
    exact hstep.grows.ended (by simpa [htx] using h)

theorem exists_silent_perform (h : ∃ tx, a.transaction? t = some tx ∧ tx.Silent ∧ tx.id = id)
    (act : Action) : ∃ tx, (a.perform act).transaction? t = some tx ∧ tx.Silent ∧ tx.id = id := by
  obtain ⟨tx, htx, hs, rfl⟩ := h
  obtain ⟨tx', htx', hstep⟩ := (a.perform_moves act).old htx
  exact ⟨tx', htx', hstep.silent hs, hstep.sameTrace.id⟩

theorem Quiet.after (h : a.Quiet t id n) (act : Action)
    (hcontexts : (a.perform act).contexts.Confined (a.keepsCurrent · = true) n) :
    (a.perform act).Quiet t id n :=
  h.later (exists_silent_perform h.own act) (fun _ => hasEnded_perform act) hcontexts

theorem Quiet.after_of_contexts_eq (h : a.Quiet t id n) (act : Action)
    (hcontexts : (a.perform act).contexts = a.contexts) : (a.perform act).Quiet t id n :=
  h.after act (hcontexts ▸ h.contexts)

/-! ### Operations that do not show -/

/-- The invariant holds, and nothing shows of what happened. -/
structure Unseen (t : TransactionRef) (id : SpanId) (n : Nat) (a a' : Agent) : Prop where
  quiet : a'.Quiet t id n
  shown : a'.shown t = a.shown t

theorem Unseen.trans (h : Unseen t id n a a') (h' : Unseen t id n a' a'') :
    Unseen t id n a a'' :=
  ⟨h'.quiet, h'.shown.trans h.shown⟩

theorem Quiet.unseen_attach (h : a.Quiet t id n) {c : Context} (hc : a.keepsCurrent c = true) :
    Unseen t id n a (a.attach c).1 := by
  have hcontexts := h.contexts.attach hc
  refine ⟨h.after (.attach c) (by rwa [perform, contexts_attach]), ?_⟩
  rw [show (a.attach c).1 = ({ a with contexts := (a.contexts.attach c).1 } : Agent).noteAll _
    from rfl, shown_noteAll]
  exact shown_withContexts (keepsCurrent_iff.mp hcontexts.current).1

theorem Quiet.unseen_dropGuard (h : a.Quiet t id n) {g : Guard} (hg : g.isAbove n = true) :
    Unseen t id n a (a.dropGuard g) := by
  have hcontexts := h.contexts.drop hg
  refine ⟨h.after (.dropGuard g) (by rwa [perform, contexts_dropGuard]), ?_⟩
  rw [show a.dropGuard g = ({ a with contexts := (a.contexts.drop g).1 } : Agent).noteAll _
    from rfl, shown_noteAll]
  exact shown_withContexts (keepsCurrent_iff.mp hcontexts.current).1

theorem Quiet.unseen_setSpan (h : a.Quiet t id n) {s : Option SpanHandle}
    (hs : a.keepsCurrent { a.context with span := s } = true) :
    Unseen t id n a (a.setSpan s) := by
  have hcontexts : (a.setSpan s).contexts.Confined (a.keepsCurrent · = true) n :=
    h.contexts.setCurrent hs
  exact ⟨h.after (.setSpan s) hcontexts,
    shown_withContexts (keepsCurrent_iff.mp hcontexts.current).1⟩

theorem Quiet.unseen_beginSpanIn (h : a.Quiet t id n) (b : SpanBuilder)
    (parent : Option SpanHandle) :
    Unseen t id n a (a.beginSpanIn t b parent).1 ∧
      (a.beginSpanIn t b parent).2.isWithin t = true := by
  obtain ⟨tx, htx, hs, -⟩ := h.own
  obtain ⟨ns, heq⟩ := beginSpanIn_of_refused (b := b) htx (hs.admission (a.enclosing t parent))
  refine ⟨⟨h.after_of_contexts_eq (.beginSpan t b parent) (contexts_beginSpanIn ..), ?_⟩, ?_⟩
  · rw [heq, shown_noteAll]
    exact shown_modifyTransaction fun _ _ => rfl
  · rw [heq]
    simp [SpanHandle.isWithin, SpanHandle.transaction?]

theorem Quiet.unseen_changeSpan (h : a.Quiet t id n) {s : SpanHandle} (hs : s.isWithin t = true)
    (c : SpanChange) : Unseen t id n a (a.changeSpan s c) := by
  refine ⟨h.after_of_contexts_eq (.changeSpan s c) (by cases c <;> cases s <;> rfl), ?_⟩
  obtain ⟨tx, htx, hsilent, -⟩ := h.own
  cases s with
  | detached => cases c <;> rfl
  | standIn u i =>
    obtain rfl : u = t := of_decide_eq_true hs
    cases c with
    | outcome outcome => exact shown_modifyTransaction fun _ _ => rfl
    | name | context | label | link => rfl
  | recording u i =>
    obtain rfl : u = t := of_decide_eq_true hs
    have hrevise : ∀ f, (a.reviseSpan (.recording u i) f).shown u = a.shown u := by
      intro f
      refine shown_modifyTransaction fun tx' htx' => ?_
      rw [← Option.some.inj (htx.symm.trans htx'), hsilent.reviseSpan_eq]
    cases c <;> exact hrevise _

theorem Quiet.unseen_outboundOfSpan (h : a.Quiet t id n) {s : SpanHandle}
    (hs : s.isWithin t = true) : Unseen t id n a (a.outboundOfSpan s).1 := by
  obtain ⟨tx, htx, hsilent, -⟩ := h.own
  cases s with
  | detached => exact ⟨h, rfl⟩
  | standIn u i => exact ⟨h, rfl⟩
  | recording u i =>
    obtain rfl : u = t := of_decide_eq_true hs
    have heq : (a.outboundOfSpan (.recording u i)).1 =
        a.modifyTransaction u fun tx => (tx.outboundOf i).1 := by
      simp only [outboundOfSpan, htx]
    refine ⟨h.after_of_contexts_eq (.outboundOfSpan (.recording u i)) ?_, ?_⟩
    · rw [perform, heq]
      rfl
    · rw [heq]
      refine shown_modifyTransaction fun tx' htx' => ?_
      rw [← Option.some.inj (htx.symm.trans htx'), hsilent.outboundOf_eq]

theorem Quiet.unseen_endSpan (h : a.Quiet t id n) {s : SpanHandle} (hs : s.isWithin t = true)
    (default : Outcome) : Unseen t id n a (a.endSpan s default) := by
  refine ⟨h.after_of_contexts_eq (.endSpan s default) (contexts_endSpan ..), ?_⟩
  obtain ⟨tx, htx, hsilent, -⟩ := h.own
  cases s with
  | detached => rfl
  | standIn u i =>
    obtain rfl : u = t := of_decide_eq_true hs
    refine shown_modifyTransaction (f := (·.endStandIn i default a.now)) fun tx' htx' => ?_
    rw [← Option.some.inj (htx.symm.trans htx')]
    rcases hsilent.endStandIn_eq i default a.now with heq | heq <;> rw [heq]
    rfl
  | recording u i =>
    obtain rfl : u = t := of_decide_eq_true hs
    simp [endSpan, htx, hsilent.spans]

/-- A change to the context or to the labels does not show. -/
theorem shown_reviseTransaction {f : Details → Details}
    (hf : ∀ d, { f d with context := [], labels := [] } = { d with context := [], labels := [] }) :
    (a.reviseTransaction t f).shown t = a.shown t := by
  unfold reviseTransaction
  split
  · rfl
  split
  · rfl
  · refine shown_modifyTransaction (f := (·.revise f)) fun tx _ => ?_
    unfold Transaction.revise
    split
    · rfl
    · simp only [Transaction.shown, hf]

/-! ### Scopes -/

theorem Quiet.unseen_beginSpan (h : a.Quiet t id n) (b : SpanBuilder) :
    Unseen t id n a (a.beginSpan b).1 ∧ (a.beginSpan b).2.isWithin t = true := by
  cases hcurrent : a.currentTransaction with
  | none =>
    simp only [beginSpan, hcurrent]
    exact ⟨⟨h, rfl⟩, rfl⟩
  | some u =>
    obtain rfl := h.current u hcurrent
    simp only [beginSpan, hcurrent]
    exact h.unseen_beginSpanIn b a.currentSpan

/-- A scope of a span of the transaction keeps the transaction current. -/
theorem Quiet.keepsCurrent_withSpan (h : a.Quiet t id n) {s : SpanHandle}
    (hs : s.isWithin t = true) : a.keepsCurrent (a.context.withSpan s) = true := by
  refine keepsCurrent_iff.mpr ⟨rfl, fun u hu s' hs' => ?_⟩
  obtain rfl := h.current u hu
  obtain rfl := Option.some.inj hs'
  exact hs

theorem Quiet.unseen_captureSpan (h : a.Quiet t id n) (b : SpanBuilder) :
    Unseen t id n a (a.captureSpan b).1 := by
  obtain ⟨hbegun, hspan⟩ := h.unseen_beginSpan b
  exact hbegun.trans (hbegun.quiet.unseen_attach (hbegun.quiet.keepsCurrent_withSpan hspan))

/-- **A scope can be left**, at any time: to do so fits. -/
theorem Quiet.fits_leaveScope (h : a.Quiet t id n) (b : SpanBuilder) (default : Outcome)
    (a' : Agent) : a'.fits t n (.leaveScope (a.captureSpan b).2 default) = true := by
  have hspan := (h.unseen_beginSpan b).2
  have hguard : (a.captureSpan b).2.guard.isAbove n = true := by
    rw [guard_captureSpan]
    exact h.contexts.isAbove_attach _
  simp only [fits, hguard, Bool.and_true]
  exact hspan

theorem Quiet.unseen_leaveScope (h : a.Quiet t id n) {s : SpanScope}
    (hspan : s.span.isWithin t = true) (hguard : s.guard.isAbove n = true) (default : Outcome) :
    Unseen t id n a (a.leaveScope s default) := by
  have hended := h.unseen_endSpan hspan default
  exact hended.trans (hended.quiet.unseen_dropGuard hguard)

/-- **Inner operations do not show.** -/
theorem Quiet.unseen (h : a.Quiet t id n) {op : Operation} (hfits : a.fits t n op = true)
    (hinner : op.isInner = true) : Unseen t id n a (a.carryOut op) := by
  cases op with
  | endTransaction => cases hinner
  | captureSpan b => exact h.unseen_captureSpan b
  | leaveScope s default =>
    obtain ⟨hspan, hguard⟩ := Bool.and_eq_true_iff.mp hfits
    exact h.unseen_leaveScope hspan hguard default
  | act act =>
    cases act with
    | attach c => exact h.unseen_attach hfits
    | dropGuard g => exact h.unseen_dropGuard hfits
    | setSpan s => exact h.unseen_setSpan hfits
    | beginSpan u b parent =>
      obtain rfl := of_decide_eq_true hfits
      exact (h.unseen_beginSpanIn b parent).1
    | changeSpan s c => exact h.unseen_changeSpan hfits c
    | outboundOfSpan s => exact h.unseen_outboundOfSpan hfits
    | endSpan s default => exact h.unseen_endSpan hfits default
    | changeTransaction u c =>
      obtain rfl := of_decide_eq_true hfits
      refine ⟨h.after_of_contexts_eq (.changeTransaction u c)
        (inward_changeTransaction ..).contexts, ?_⟩
      cases c with
      | context | label => exact shown_reviseTransaction fun _ => rfl
      | name | result | outcome | link => cases hinner
    | advance | moveTo | updateConfig | switchThread | setTransaction | beginTransaction
    | ensureParentId | finishTransaction | captureError | captureMessage | forceFlush | shutdown =>
      cases hinner

end Agent

end Telemetry
