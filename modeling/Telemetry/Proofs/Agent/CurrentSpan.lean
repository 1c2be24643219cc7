import Telemetry.Proofs.Agent.Unsampled

/-!
# The current span belongs to the current transaction

A program takes contexts from what is current, makes others of them, holds them, attaches them, and
drops guards in any order. It makes spans current only of the transaction that is current then. So
whatever span is current belongs to the current transaction, also when a context comes back that was
saved long ago, or the transaction of which has ended since.

One operation does not keep to this. Replacing the current transaction by another one leaves the
span where it is, and it is then current within a transaction that it does not belong to. What has
to be asked of the program is that it removes the span first.

## Main definitions

* `Agent.Coherent`: a context with a span of its own transaction.
* `Holdings`, `ContextStep`: a program and the contexts that it holds.
* `Holdings.admits`: spans are only given to their own transaction.
* `Holdings.forgets`: no span is left behind when the transaction is replaced.

## Main results

* `Holdings.Coherent.step`: every step keeps all contexts coherent.
* `Holdings.run_span_belongs`: the current span belongs to the current transaction, in all runs.
-/

namespace Telemetry

/-! ### Coherent contexts -/

namespace Agent

variable {a a' a'' : Agent} {c : Context} {t : TransactionRef}

/-- The transaction of the context exists, and its span, as far as it can be seen, belongs to the
transaction that can be seen. -/
structure Coherent (a : Agent) (c : Context) : Prop where
  known : ∀ t ∈ c.transaction, (a.transaction? t).isSome = true
  belongs : ∀ s ∈ a.spanOf c, s.transaction? = a.transactionOf c

theorem coherent_empty (a : Agent) : a.Coherent {} := ⟨by simp, by simp [spanOf]⟩

/-- The span belongs to the transaction of the context, or that one has ended. -/
theorem belongs_iff : (∀ s ∈ a.spanOf c, s.transaction? = a.transactionOf c) ↔
    ∀ s ∈ c.span, s.transaction? = c.transaction ∨ ∃ t ∈ c.transaction, a.hasEnded t = true := by
  obtain ⟨transaction, span⟩ := c
  cases transaction with
  | none => simp [spanOf, transactionOf]
  | some t => cases hended : a.hasEnded t <;> simp [spanOf, transactionOf, Option.filter, hended]

/-- What begins stays there, and what has ended stays so. -/
structure Follows (a a' : Agent) : Prop where
  known : ∀ t, (a.transaction? t).isSome = true → (a'.transaction? t).isSome = true
  ended : ∀ t, a.hasEnded t = true → a'.hasEnded t = true

theorem follows_of_transactions_eq (h : a'.transactions = a.transactions) : Follows a a' where
  known := fun t ht => by rwa [transaction?, h]
  ended := fun t ht => by
    rw [hasEnded_eq] at ht ⊢
    rwa [transaction?, h]

theorem Follows.trans (h : Follows a a') (h' : Follows a' a'') : Follows a a'' :=
  ⟨fun t ht => h'.known t (h.known t ht), fun t ht => h'.ended t (h.ended t ht)⟩

theorem follows_perform (a : Agent) (act : Action) : Follows a (a.perform act) where
  known := fun t ht => by
    obtain ⟨tx, htx⟩ := Option.isSome_iff_exists.mp ht
    obtain ⟨tx', htx', -⟩ := (a.perform_moves act).old htx
    rw [htx', Option.isSome_some]
  ended := fun _ ht => hasEnded_perform act ht

theorem follows_beginSpan (a : Agent) (b : SpanBuilder) : Follows a (a.beginSpan b).1 := by
  unfold beginSpan
  split
  · rename_i t _
    exact a.follows_perform (.beginSpan t b a.currentSpan)
  · exact follows_of_transactions_eq rfl

theorem follows_carryOut (a : Agent) (op : Operation) : Follows a (a.carryOut op) := by
  cases op with
  | act act => exact a.follows_perform act
  | endTransaction result name =>
    simp only [carryOut, endTransaction]
    split
    · exact follows_of_transactions_eq rfl
    · rename_i t _
      exact (a.follows_perform (.setTransaction none)).trans
        (follows_perform _ (.finishTransaction t result name))
  | captureSpan b =>
    exact (a.follows_beginSpan b).trans
      (follows_of_transactions_eq (aside_captureSpan a b).transactions)
  | leaveScope s default =>
    exact (a.follows_perform (.endSpan s.span default)).trans
      (follows_perform _ (.dropGuard s.guard))

theorem Coherent.later (h : a.Coherent c) (hlater : Follows a a') : a'.Coherent c where
  known := fun t ht => hlater.known t (h.known t ht)
  belongs := by
    rw [belongs_iff]
    intro s hs
    rcases belongs_iff.mp h.belongs s hs with hsame | ⟨t, ht, hended⟩
    · exact .inl hsame
    · exact .inr ⟨t, ht, hlater.ended t hended⟩

/-- A span is given to the transaction that it belongs to. -/
theorem Coherent.withSpan (h : a.Coherent c) {s : SpanHandle}
    (hs : s.transaction? = a.transactionOf c) : a.Coherent (c.withSpan s) where
  known := h.known
  belongs := by
    intro s' hs'
    have hsame : s' = s := by
      simp only [spanOf, Context.withSpan] at hs'
      split at hs'
      · split at hs'
        · cases hs'
        · exact (Option.some.inj hs').symm
      · exact (Option.some.inj hs').symm
    rw [hsame, hs]
    rfl

/-- **Replacing the transaction.** The span stays, so the context that becomes current is coherent
just if there is no span but of that transaction, or nothing can be seen of it. -/
theorem belongs_setTransaction_iff :
    (∀ s ∈ (a.setTransaction (some t)).currentSpan,
      s.transaction? = (a.setTransaction (some t)).currentTransaction) ↔
    (a.hasEnded t || a.context.span.all (·.transaction? = some t)) = true := by
  have hcontext : (a.setTransaction (some t)).context = ⟨some t, a.context.span⟩ := rfl
  have hended : (a.setTransaction (some t)).hasEnded t = a.hasEnded t := rfl
  rw [currentSpan, currentTransaction, belongs_iff, hcontext]
  simp only [Option.mem_def, Option.some.injEq, exists_eq_left', hended, Bool.or_eq_true,
    Option.all_eq_true, decide_eq_true_eq]
  constructor
  · intro h
    by_cases he : a.hasEnded t = true
    · exact .inl he
    · exact .inr fun s hs => (h s hs).resolve_right he
  · rintro (h | h) s hs
    · exact .inr h
    · exact .inl (h s hs)

/-- A span that is begun belongs to the current transaction. -/
theorem transaction?_beginSpan (hknown : ∀ t ∈ a.currentTransaction,
    (a.transaction? t).isSome = true) (b : SpanBuilder) :
    (a.beginSpan b).2.transaction? = a.currentTransaction := by
  cases hcurrent : a.currentTransaction with
  | none => simp only [beginSpan, hcurrent, SpanHandle.transaction?]
  | some t =>
    obtain ⟨tx, htx⟩ := Option.isSome_iff_exists.mp (hknown t hcurrent)
    simp only [beginSpan, hcurrent, beginSpanIn, htx]
    cases tx.admission (a.enclosing t a.currentSpan) <;> rfl

end Agent

/-! ### Programs that hold contexts -/

/-- An agent, and the contexts that a program holds. It can always have an empty one. -/
structure Holdings where
  agent : Agent
  held : List Context := [{}]

/-- What a program does. -/
inductive ContextStep
  | carryOut (op : Operation)
  /-- The current context is held. -/
  | keep
  /-- A context is made of one that is held. -/
  | withTransaction (c : Context) (t : TransactionRef)
  | withSpan (c : Context) (s : SpanHandle)

namespace Holdings

/-- One step. -/
def step (h : Holdings) : ContextStep → Holdings
  | .carryOut op => { h with agent := h.agent.carryOut op }
  | .keep => { h with held := h.agent.context :: h.held }
  | .withTransaction c t => { h with held := c.withTransaction t :: h.held }
  | .withSpan c s => { h with held := c.withSpan s :: h.held }

/-- Several steps. -/
def run (h : Holdings) (steps : List ContextStep) : Holdings := steps.foldl step h

/-- Only contexts are used that are held, and transactions that were begun, on one thread. A span is
only given to a context, or made current, if it belongs to the transaction there. -/
def admits (h : Holdings) : ContextStep → Bool
  | .keep => true
  | .withTransaction c t => c ∈ h.held && (h.agent.transaction? t).isSome
  | .withSpan c s => c ∈ h.held && s.transaction? = h.agent.transactionOf c
  | .carryOut op => match op with
    | .act (.attach c) => c ∈ h.held
    | .act (.setTransaction (some t)) => (h.agent.transaction? t).isSome
    | .act (.setSpan s) => s.all (·.transaction? = h.agent.currentTransaction)
    | .act (.switchThread _) => false
    | _ => true

/-- When the current transaction is replaced by another one, no span is left behind. -/
def forgets (h : Holdings) : ContextStep → Bool
  | .carryOut (.act (.setTransaction (some t))) =>
    h.agent.hasEnded t || h.agent.context.span.all (·.transaction? = some t)
  | _ => true

/-- Each step has a property, when it is taken. -/
def always (p : Holdings → ContextStep → Bool) : Holdings → List ContextStep → Bool
  | _, [] => true
  | h, s :: rest => p h s && (h.step s).always p rest

/-- All contexts are coherent: the current one, those that are saved, and those that are held. -/
structure Coherent (h : Holdings) : Prop where
  stack : h.agent.contexts.All h.agent.Coherent
  held : ∀ c ∈ h.held, h.agent.Coherent c

variable {h : Holdings}

/-- The current transaction was begun. -/
theorem Coherent.known (hc : h.Coherent) :
    ∀ t ∈ h.agent.currentTransaction, (h.agent.transaction? t).isSome = true := fun t ht =>
  hc.stack.current.known t (Option.filter_eq_some_iff.mp ht).1

/-- After an operation it remains to be seen which contexts are on the stack. -/
theorem Coherent.after (hc : h.Coherent) (op : Operation)
    (hstack : h.agent.contexts.All h.agent.Coherent →
      (h.agent.carryOut op).contexts.All (h.agent.carryOut op).Coherent) :
    (h.step (.carryOut op)).Coherent :=
  ⟨hstack hc.stack, fun c hmem => (hc.held c hmem).later (h.agent.follows_carryOut op)⟩

theorem Coherent.after_of_all (hc : h.Coherent) (op : Operation)
    (hstack : (h.agent.carryOut op).contexts.All h.agent.Coherent) :
    (h.step (.carryOut op)).Coherent :=
  hc.after op fun _ => hstack.mono fun _ hcoherent =>
    hcoherent.later (h.agent.follows_carryOut op)

theorem Coherent.after_of_contexts_eq (hc : h.Coherent) (op : Operation)
    (hcontexts : (h.agent.carryOut op).contexts = h.agent.contexts) :
    (h.step (.carryOut op)).Coherent :=
  hc.after_of_all op (hcontexts ▸ hc.stack)

theorem Coherent.captureSpan (hc : h.Coherent) (b : SpanBuilder) :
    (h.step (.carryOut (.captureSpan b))).Coherent := by
  refine hc.after_of_all _ ?_
  rw [Agent.carryOut, Agent.contexts_captureSpan]
  exact hc.stack.attach
    (hc.stack.current.withSpan (Agent.transaction?_beginSpan hc.known b))

theorem Coherent.endTransaction (hc : h.Coherent) (result name : Option String) :
    (h.step (.carryOut (.endTransaction result name))).Coherent := by
  refine hc.after_of_all _ ?_
  rw [Agent.carryOut, Agent.contexts_endTransaction]
  split
  · exact hc.stack.setCurrent h.agent.coherent_empty
  · exact hc.stack

/-- A transaction that begins is current without a span, if it is activated. -/
theorem Coherent.beginTransaction (hc : h.Coherent) (b : TransactionBuilder) :
    (h.step (.carryOut (.act (.beginTransaction b)))).Coherent := by
  cases hactive : b.activate with
  | false =>
    exact hc.after_of_contexts_eq _ (Agent.contexts_beginTransaction_of_not_activate hactive)
  | true =>
    refine hc.after _ fun hstack => ?_
    have hlater := h.agent.follows_carryOut (.act (.beginTransaction b))
    have hcontexts : (h.agent.carryOut (.act (.beginTransaction b))).contexts = _ :=
      Agent.contexts_beginTransaction hactive
    rw [hcontexts]
    refine (hstack.mono fun _ hcoherent => hcoherent.later hlater).setCurrent ⟨?_, ?_⟩
    · intro t ht
      obtain rfl := Option.some.inj ht
      obtain ⟨tx, htx, -⟩ := h.agent.exists_begun b
      exact Option.isSome_iff_exists.mpr ⟨tx, htx⟩
    · rw [Agent.belongs_iff]
      simp

theorem Coherent.setTransaction (hc : h.Coherent) {t : TransactionRef}
    (hknown : (h.agent.transaction? t).isSome = true)
    (hforgets : h.forgets (.carryOut (.act (.setTransaction (some t)))) = true) :
    (h.step (.carryOut (.act (.setTransaction (some t))))).Coherent := by
  refine hc.after _ fun hstack => ?_
  refine (hstack.mono fun _ hcoherent =>
    hcoherent.later (h.agent.follows_perform (.setTransaction (some t)))).setCurrent ⟨?_, ?_⟩
  · intro u hu
    obtain rfl := Option.some.inj hu
    exact hknown
  · exact Agent.belongs_setTransaction_iff.mpr hforgets

theorem Coherent.setSpan (hc : h.Coherent) {s : Option SpanHandle}
    (hs : s.all (·.transaction? = h.agent.currentTransaction) = true) :
    (h.step (.carryOut (.act (.setSpan s)))).Coherent := by
  refine hc.after_of_all _ (hc.stack.setCurrent ?_)
  cases s with
  | none => exact ⟨hc.stack.current.known, Agent.belongs_iff.mpr (by simp)⟩
  | some s => exact hc.stack.current.withSpan (of_decide_eq_true hs)

theorem Coherent.act (hc : h.Coherent) {act : Action}
    (hadmits : h.admits (.carryOut (.act act)) = true)
    (hforgets : h.forgets (.carryOut (.act act)) = true) :
    (h.step (.carryOut (.act act))).Coherent := by
  cases act with
  | attach c =>
    refine hc.after_of_all _ ?_
    rw [Agent.carryOut, Agent.perform, Agent.contexts_attach]
    exact hc.stack.attach (hc.held c (of_decide_eq_true hadmits))
  | dropGuard g =>
    refine hc.after_of_all _ ?_
    rw [Agent.carryOut, Agent.perform, Agent.contexts_dropGuard]
    exact hc.stack.drop g
  | setTransaction t =>
    cases t with
    | none => exact hc.after_of_all _ (hc.stack.setCurrent h.agent.coherent_empty)
    | some t => exact hc.setTransaction hadmits hforgets
  | setSpan s => exact hc.setSpan hadmits
  | beginTransaction b => exact hc.beginTransaction b
  | switchThread => cases hadmits
  | advance | moveTo | updateConfig | forceFlush => exact hc.after_of_contexts_eq _ rfl
  | changeTransaction t c =>
    exact hc.after_of_contexts_eq _ (Agent.inward_changeTransaction h.agent t c).contexts
  | ensureParentId t =>
    exact hc.after_of_contexts_eq _ (Agent.inward_ensureParentId h.agent t).contexts
  | finishTransaction t result name =>
    exact hc.after_of_contexts_eq _ (Agent.inward_finishTransaction h.agent t result name).contexts
  | beginSpan t b parent =>
    exact hc.after_of_contexts_eq _ (Agent.contexts_beginSpanIn h.agent t b parent)
  | changeSpan s c => exact hc.after_of_contexts_eq _ (Agent.inward_changeSpan h.agent s c).contexts
  | outboundOfSpan s =>
    exact hc.after_of_contexts_eq _ (Agent.inward_outboundOfSpan h.agent s).contexts
  | endSpan s default => exact hc.after_of_contexts_eq _ (Agent.contexts_endSpan h.agent s default)
  | captureError | captureMessage =>
    exact hc.after_of_contexts_eq _ (Agent.inward_queueError _ _ _ _ _).contexts
  | shutdown => exact hc.after_of_contexts_eq _ (Agent.contexts_noteAll _ _)

/-- **Every step keeps all contexts coherent.** -/
theorem Coherent.step (hc : h.Coherent) {s : ContextStep} (hadmits : h.admits s = true)
    (hforgets : h.forgets s = true) : (h.step s).Coherent := by
  cases s with
  | keep => exact ⟨hc.stack, List.forall_mem_cons.mpr ⟨hc.stack.current, hc.held⟩⟩
  | withTransaction c t =>
    obtain ⟨-, hknown⟩ := Bool.and_eq_true_iff.mp hadmits
    refine ⟨hc.stack, List.forall_mem_cons.mpr ⟨⟨?_, ?_⟩, hc.held⟩⟩
    · intro u hu
      obtain rfl := Option.some.inj hu
      exact hknown
    · exact Agent.belongs_iff.mpr (by simp [Context.withTransaction])
  | withSpan c s =>
    obtain ⟨hc', hs⟩ := Bool.and_eq_true_iff.mp hadmits
    exact ⟨hc.stack, List.forall_mem_cons.mpr
      ⟨(hc.held c (of_decide_eq_true hc')).withSpan (of_decide_eq_true hs), hc.held⟩⟩
  | carryOut op =>
    cases op with
    | act act => exact hc.act hadmits hforgets
    | endTransaction result name => exact hc.endTransaction result name
    | captureSpan b => exact hc.captureSpan b
    | leaveScope s default =>
      refine hc.after_of_all _ ?_
      rw [Agent.carryOut, Agent.contexts_leaveScope]
      exact hc.stack.drop s.guard

theorem Coherent.run (hc : h.Coherent) {steps : List ContextStep}
    (hadmits : h.always admits steps = true) (hforgets : h.always forgets steps = true) :
    (h.run steps).Coherent := by
  induction steps generalizing h with
  | nil => exact hc
  | cons s rest ih =>
    obtain ⟨hadmitted, hadmits⟩ := Bool.and_eq_true_iff.mp hadmits
    obtain ⟨hforgetting, hforgets⟩ := Bool.and_eq_true_iff.mp hforgets
    exact ih (hc.step hadmitted hforgetting) hadmits hforgets

/-- **The current span belongs to the current transaction.** Let a program begin and end
transactions, open and leave scopes, attach contexts that it holds, drop guards in any order,
replace what is current, and do whatever else it likes. Let it give spans only to the transaction
that they belong to, and leave no span behind when it replaces the current transaction by another
one. Then whenever a span is current, its transaction is the current one, and none is current if the
span has none.

The last condition is needed: the current transaction can be replaced by another one, with that
outcome, just if the condition holds. -/
theorem run_span_belongs {a : Agent} (hcontexts : a.contexts = {}) {steps : List ContextStep}
    (hadmits : always admits { agent := a } steps = true)
    (hforgets : always forgets { agent := a } steps = true) :
    let after := run { agent := a } steps
    (∀ s ∈ after.agent.currentSpan, s.transaction? = after.agent.currentTransaction) ∧
      ∀ t, (∀ s ∈ (after.agent.setTransaction (some t)).currentSpan,
          s.transaction? = (after.agent.setTransaction (some t)).currentTransaction) ↔
        after.forgets (.carryOut (.act (.setTransaction (some t)))) = true := by
  have hinit : Coherent { agent := a } := by
    refine ⟨?_, ?_⟩
    · rw [hcontexts]
      exact ⟨a.coherent_empty, by simp⟩
    · simpa using a.coherent_empty
  exact ⟨(hinit.run hadmits hforgets).stack.current.belongs,
    fun t => Agent.belongs_setTransaction_iff⟩

/-- A context is saved, its transaction ends, and it comes back for a while; guards are dropped out
of turn. -/
def savedContexts : List ContextStep :=
  let caller := TraceParent.create (.ofNat 1) (.ofNat 9) true
  let saved : Context := ⟨some 0, some (.recording 0 0)⟩
  [.carryOut (.act (.beginTransaction { kind := "request", caller })),
    .carryOut (.captureSpan {}), .keep,
    .carryOut (.act (.beginTransaction { kind := "job", caller, activate := false })),
    .withTransaction {} 1,
    .carryOut (.act (.attach ⟨some 1, none⟩)), .carryOut (.captureSpan {}),
    .carryOut (.act (.finishTransaction 0 none none)), .carryOut (.act (.attach saved)),
    .carryOut (.act (.dropGuard ⟨2⟩)), .carryOut (.act (.dropGuard ⟨4⟩))]

/-- In the end the span of the other transaction is current, and belongs to it. -/
theorem run_span_belongs_savedContexts :
    let start : Holdings := { agent := Agent.inMemory }
    let after := (start.run savedContexts).agent
    start.always admits savedContexts = true ∧ start.always forgets savedContexts = true ∧
      after.currentSpan = some (.recording 1 0) ∧
      ∀ s ∈ after.currentSpan, s.transaction? = after.currentTransaction := by
  have hadmits : always admits { agent := Agent.inMemory } savedContexts = true := by
    decide +kernel
  have hforgets : always forgets { agent := Agent.inMemory } savedContexts = true := by
    decide +kernel
  exact ⟨hadmits, hforgets, by decide +kernel, (run_span_belongs rfl hadmits hforgets).1⟩

/-- A span is current when the current transaction is replaced by another one. -/
def replacedTransaction : List ContextStep :=
  let caller := TraceParent.create (.ofNat 1) (.ofNat 9) true
  [.carryOut (.act (.beginTransaction { kind := "request", caller })),
    .carryOut (.act (.beginSpan 0 {} none)),
    .carryOut (.act (.setSpan (some (.recording 0 0)))),
    .carryOut (.act (.beginTransaction { kind := "job", caller, activate := false })),
    .carryOut (.act (.setTransaction (some 1)))]

/-- **A span of the replaced transaction stays current** within the one that replaces it. -/
theorem not_span_belongs_replacedTransaction :
    let start : Holdings := { agent := Agent.inMemory }
    let after := (start.run replacedTransaction).agent
    start.always admits replacedTransaction = true ∧
      after.currentSpan = some (.recording 0 0) ∧ after.currentTransaction = some 1 ∧
      ¬ ∀ s ∈ after.currentSpan, s.transaction? = after.currentTransaction := by
  have hspan : (run { agent := Agent.inMemory } replacedTransaction).agent.currentSpan =
      some (.recording 0 0) := by decide +kernel
  have htransaction : (run { agent := Agent.inMemory }
      replacedTransaction).agent.currentTransaction = some 1 := by decide +kernel
  refine ⟨by decide +kernel, hspan, htransaction, fun h => ?_⟩
  have hsame := h _ hspan
  rw [htransaction] at hsame
  cases hsame

end Holdings

end Telemetry
