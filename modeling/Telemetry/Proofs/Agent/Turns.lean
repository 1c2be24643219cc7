import Telemetry.Proofs.Agent.Moves

/-!
# What an action makes of one transaction

Every action has to do with one transaction at most, and it can be told what it makes of that one.
Where steps say only what kind of thing happens to a transaction, a turn says what happens: to which
span, by which change. So what is known of a transaction, or of one of its spans, can be followed
through a run.

## Main definitions

* `TransactionChange.apply`, `SpanChange.apply`: a change to details.
* `Agent.turn`: what an action makes of a transaction.

## Main results

* `Agent.transaction?_perform`: the transaction after an action.
-/

namespace Telemetry

/-! ### Changes -/

/-- What a change makes of the details of a transaction. -/
def TransactionChange.apply : TransactionChange → Details → Details
  | .name text, d => { d with name := text }
  | .result text, d => { d with result := some text }
  | .outcome o, d => { d with outcome := some o }
  | .context key data, d => { d with context := ContextData.merge key data d.context }
  | .label key value, d => { d with labels := Label.put key value d.labels }
  | .link l, d => { d with links := d.links ++ [l] }

/-- What a change makes of the details of a span. -/
def SpanChange.apply : SpanChange → SpanDetails → SpanDetails
  | .name text, d => { d with name := text }
  | .outcome o, d => { d with outcome := some o }
  | .context key data, d => { d with context := ContextData.merge key data d.context }
  | .label key value, d => { d with labels := Label.put key value d.labels }
  | .link l, d => { d with links := d.links ++ [l] }

namespace Agent

variable {a : Agent} {t u : TransactionRef} {tx ux : Transaction}

theorem changeTransaction_eq (a : Agent) (t : TransactionRef) (c : TransactionChange) :
    a.changeTransaction t c = a.reviseTransaction t c.apply := by
  cases c <;> rfl

/-! ### Turns -/

/-- What an action makes of the transaction at a place. -/
def turn (a : Agent) (t : TransactionRef) (tx : Transaction) : Action → Transaction
  | .changeTransaction u c => if u = t then tx.revise c.apply else tx
  | .ensureParentId u =>
    if u = t then if tx.isRoot then tx.withCaller a.freshSpanId.2 else tx else tx
  | .finishTransaction u result name => if u = t then (tx.finish result name a.now).1 else tx
  | .beginSpan u b parent =>
    if u = t then
      match tx.admission (a.enclosing t parent) with
      | .ok place => tx.openSpan b place a.freshSpanId.2 a.now
      | .error reason => tx.openStandIn b reason a.now
    else tx
  | .changeSpan (.recording u i) c => if u = t then tx.reviseSpan i c.apply else tx
  | .changeSpan (.standIn u i) (.outcome outcome) =>
    if u = t then tx.modifyStandIn i ({ · with outcome := some outcome }) else tx
  | .outboundOfSpan (.recording u i) => if u = t then (tx.outboundOf i).1 else tx
  | .endSpan (.recording u i) default =>
    if u = t then (tx.endSpan i default a.now (a.framesFor tx i)).1 else tx
  | .endSpan (.standIn u i) default => if u = t then tx.endStandIn i default a.now else tx
  | _ => tx

theorem ne_of_unknown (htx : a.transaction? t = some tx) (hu : a.transaction? u = none) :
    u ≠ t := by
  rintro rfl
  cases htx.symm.trans hu

theorem eq_of_same (htx : a.transaction? t = some tx) (hu : a.transaction? u = some ux)
    (h : u = t) : ux = tx := by
  subst u
  exact Option.some.inj (hu.symm.trans htx)

theorem transaction?_of_eq {a' : Agent} (htx : a.transaction? t = some tx)
    (h : a'.transactions = a.transactions) : a'.transaction? t = some tx := by
  rw [transaction?, h, ← transaction?, htx]

/-- A change at one place, seen from a place. -/
theorem transaction?_modify {a' : Agent} (htx : a.transaction? t = some tx)
    {f : Transaction → Transaction} (h : a'.transactions = a.transactions.modify u f) :
    a'.transaction? t = some (if u = t then f tx else tx) := by
  rw [transaction?, h, Array.getElem?_modify, ← transaction?, htx]
  split <;> rfl

theorem transaction?_reviseTransaction (htx : a.transaction? t = some tx) (u : TransactionRef)
    (f : Details → Details) :
    (a.reviseTransaction u f).transaction? t = some (if u = t then tx.revise f else tx) := by
  cases hu : a.transaction? u with
  | none =>
    simp only [reviseTransaction, hu, if_neg (ne_of_unknown htx hu), htx]
  | some ux =>
    cases hended : ux.ended with
    | false =>
      simp only [reviseTransaction, hu, hended, Bool.false_eq_true, if_false]
      exact transaction?_modify (f := (·.revise f)) htx rfl
    | true =>
      simp only [reviseTransaction, hu, hended, if_true]
      refine htx.trans (congrArg some ?_)
      split
      · obtain rfl := eq_of_same htx hu ‹_›
        simp [Transaction.revise, hended]
      · rfl

theorem transaction?_ensureParentId (htx : a.transaction? t = some tx) (u : TransactionRef) :
    (a.ensureParentId u).1.transaction? t = some (a.turn t tx (.ensureParentId u)) := by
  cases hu : a.transaction? u with
  | none =>
    simp only [ensureParentId, hu, turn, if_neg (ne_of_unknown htx hu), htx]
  | some ux =>
    cases hroot : ux.isRoot with
    | false =>
      simp only [ensureParentId, hu, hroot, Bool.false_eq_true, if_false, turn]
      split
      · obtain rfl := eq_of_same htx hu ‹_›
        simp [htx, hroot]
      · exact htx
    | true =>
      simp only [ensureParentId, hu, hroot, if_true, turn]
      refine (transaction?_modify (f := (·.withCaller a.freshSpanId.2)) htx rfl).trans ?_
      split
      · obtain rfl := eq_of_same htx hu ‹_›
        rw [if_pos hroot]
      · rfl

/-- A transaction is exchanged for what becomes of it, and events are handed to the queue. -/
theorem transaction?_exchange {b : Agent} (htx : a.transaction? t = some tx) (haside : Aside a b)
    (f : Transaction → Transaction) (events : List Event) :
    ((b.modifyTransaction u f).enqueueAll events).transaction? t =
      some (if u = t then f tx else tx) :=
  transaction?_modify htx (by rw [transactions_enqueueAll, modifyTransaction, haside.transactions])

theorem transaction?_finishTransaction (htx : a.transaction? t = some tx) (u : TransactionRef)
    (result name : Option String) :
    (a.finishTransaction u result name).1.transaction? t =
      some (a.turn t tx (.finishTransaction u result name)) := by
  cases hu : a.transaction? u with
  | none =>
    simp only [finishTransaction, hu, turn, if_neg (ne_of_unknown htx hu), htx]
  | some ux =>
    cases hended : ux.ended with
    | true =>
      simp only [finishTransaction, hu, hended, if_true, turn]
      refine htx.trans (congrArg some ?_)
      split
      · obtain rfl := eq_of_same htx hu ‹_›
        simp [Transaction.finish, hended]
      · rfl
    | false =>
      simp only [finishTransaction, hu, hended, Bool.false_eq_true, if_false, turn]
      rw [transaction?_exchange htx (.refl a)]
      split
      · rw [eq_of_same htx hu ‹_›]
      · rfl

theorem transaction?_beginSpanIn (htx : a.transaction? t = some tx) (u : TransactionRef)
    (b : SpanBuilder) (parent : Option SpanHandle) :
    (a.beginSpanIn u b parent).1.transaction? t = some (a.turn t tx (.beginSpan u b parent)) := by
  cases hu : a.transaction? u with
  | none =>
    simp only [beginSpanIn, hu, turn, if_neg (ne_of_unknown htx hu), htx]
  | some ux =>
    cases hadmission : ux.admission (a.enclosing u parent) with
    | ok place =>
      rw [beginSpanIn_of_admitted hu hadmission, turn]
      refine
        (transaction?_modify (f := (·.openSpan b place a.freshSpanId.2 a.now)) htx rfl).trans ?_
      split
      · subst u
        obtain rfl := eq_of_same htx hu rfl
        simp only [hadmission]
      · rfl
    | error reason =>
      obtain ⟨ns, heq⟩ := beginSpanIn_of_refused (b := b) hu hadmission
      rw [heq, turn]
      refine (transaction?_modify (f := (·.openStandIn b reason a.now)) htx
        (transactions_noteAll _ _)).trans ?_
      split
      · subst u
        obtain rfl := eq_of_same htx hu rfl
        simp only [hadmission]
      · rfl

theorem transaction?_changeSpan (htx : a.transaction? t = some tx) (s : SpanHandle)
    (c : SpanChange) :
    (a.changeSpan s c).transaction? t = some (a.turn t tx (.changeSpan s c)) := by
  cases s with
  | detached => cases c <;> exact htx
  | recording u i => cases c <;> exact transaction?_modify (f := (·.reviseSpan i _)) htx rfl
  | standIn u i =>
    cases c with
    | outcome o =>
      exact transaction?_modify (f := (·.modifyStandIn i ({ · with outcome := some o }))) htx rfl
    | name | context | label | link => exact htx

theorem transaction?_outboundOfSpan (htx : a.transaction? t = some tx) (s : SpanHandle) :
    (a.outboundOfSpan s).1.transaction? t = some (a.turn t tx (.outboundOfSpan s)) := by
  cases s with
  | detached => exact htx
  | standIn u i => exact htx
  | recording u i =>
    cases hu : a.transaction? u with
    | none =>
      simp only [outboundOfSpan, hu, turn, if_neg (ne_of_unknown htx hu), htx]
    | some ux =>
      simp only [outboundOfSpan, hu, turn]
      exact transaction?_modify (f := fun tx => (tx.outboundOf i).1) htx rfl

theorem transaction?_endSpan (htx : a.transaction? t = some tx) (s : SpanHandle)
    (default : Outcome) :
    (a.endSpan s default).transaction? t = some (a.turn t tx (.endSpan s default)) := by
  cases s with
  | detached => exact htx
  | standIn u i => exact transaction?_modify (f := (·.endStandIn i default a.now)) htx rfl
  | recording u i =>
    cases hu : a.transaction? u with
    | none =>
      simp only [endSpan, hu, turn, if_neg (ne_of_unknown htx hu), htx]
    | some ux =>
      cases hlive : ux.liveSpan? i with
      | none =>
        rw [transaction?_of_eq htx (aside_endSpan_of_not_live hu hlive default).transactions, turn]
        split
        · obtain rfl := eq_of_same htx hu ‹_›
          simp [Transaction.endSpan, hlive]
        · rfl
      | some sd =>
        obtain ⟨frameRequests, heq⟩ := endSpan_of_live hu hlive default
        rw [heq, transaction?_exchange (b := { a with frameRequests }) htx ⟨rfl, rfl⟩, turn]
        split
        · rw [eq_of_same htx hu ‹_›]
        · rfl

/-- **The transaction after an action.** -/
theorem transaction?_perform (htx : a.transaction? t = some tx) (act : Action) :
    (a.perform act).transaction? t = some (a.turn t tx act) := by
  cases act with
  | advance | moveTo | updateConfig | switchThread | setTransaction | setSpan | forceFlush =>
    exact htx
  | attach c => exact transaction?_of_eq htx (aside_attach a c).transactions
  | dropGuard g => exact transaction?_of_eq htx (aside_dropGuard a g).transactions
  | shutdown => exact transaction?_of_eq htx (transactions_noteAll _ _)
  | captureError | captureMessage => exact transaction?_of_eq htx (transactions_enqueue _ _ _)
  | beginTransaction b =>
    obtain ⟨_, -, -, htransactions, -⟩ := a.beginTransaction_eq b
    have hlt : t < a.transactions.size := (Array.getElem?_eq_some_iff.mp htx).1
    rw [perform, transaction?, htransactions, Array.getElem?_push_lt hlt,
      ← Array.getElem?_eq_getElem, ← transaction?, htx]
    rfl
  | changeTransaction u c =>
    rw [perform, changeTransaction_eq]
    exact transaction?_reviseTransaction htx u c.apply
  | ensureParentId u => exact transaction?_ensureParentId htx u
  | finishTransaction u result name => exact transaction?_finishTransaction htx u result name
  | beginSpan u b parent => exact transaction?_beginSpanIn htx u b parent
  | changeSpan s c => exact transaction?_changeSpan htx s c
  | outboundOfSpan s => exact transaction?_outboundOfSpan htx s
  | endSpan s default => exact transaction?_endSpan htx s default

end Agent

end Telemetry
