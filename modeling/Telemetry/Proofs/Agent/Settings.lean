import Telemetry.Agent.Current
import Telemetry.Proofs.Agent.Budget
import Telemetry.Proofs.Agent.Run

/-!
# A transaction keeps the settings that it began with

Settings can change at any time. They are read when a transaction begins, which takes from them all
that it will ever need, and when an error is captured. Everything else that happens to an agent
commutes with an exchange of its settings. So a run in which the settings change comes to the same
as one in which they do not, as long as nothing begins and nothing is captured.

## Main definitions

* `Action.readsSettings`, `Action.changesSettings`.
* `Agent.withSettings`: the agent with other settings.

## Main results

* `Agent.perform_withSettings`: what does not read the settings does not depend on them.
* `Agent.run_keeps_settings`: changes of the settings make no difference to a transaction that has
  begun.
-/

namespace Telemetry

/-- The action looks at the settings. -/
def Action.readsSettings : Action → Bool
  | .beginTransaction _ | .captureError _ _ _ _ | .captureMessage _ _ => true
  | _ => false

/-- The action changes the settings. -/
def Action.changesSettings : Action → Bool
  | .updateConfig _ => true
  | _ => false

namespace Agent

variable (a : Agent) (c : ConfigHandle)

/-- The agent with other settings. -/
def withSettings (a : Agent) (c : ConfigHandle) : Agent := { a with config := c }

theorem noteAll_withSettings (ns : List Notice) :
    (a.withSettings c).noteAll ns = (a.noteAll ns).withSettings c := by
  induction ns generalizing a with
  | nil => rfl
  | cons n rest ih => exact ih (a.note n)

theorem enqueue_withSettings (e : Event) (flush : Bool) :
    (a.withSettings c).enqueue e flush = (a.enqueue e flush).withSettings c :=
  noteAll_withSettings { a with queue := (a.queue.put e flush).1 } c _

theorem enqueueAll_withSettings (events : List Event) :
    (a.withSettings c).enqueueAll events = (a.enqueueAll events).withSettings c := by
  induction events generalizing a with
  | nil => rfl
  | cons e rest ih =>
    show ((a.withSettings c).enqueue e false).enqueueAll rest = _
    rw [enqueue_withSettings, ih]
    rfl

/-! ### Operations -/

theorem attach_withSettings (x : Context) :
    (a.withSettings c).attach x = ((a.attach x).1.withSettings c, (a.attach x).2) :=
  Prod.ext (noteAll_withSettings { a with contexts := (a.contexts.attach x).1 } c _) rfl

theorem dropGuard_withSettings (g : Guard) :
    (a.withSettings c).dropGuard g = (a.dropGuard g).withSettings c :=
  noteAll_withSettings { a with contexts := (a.contexts.drop g).1 } c _

theorem reviseTransaction_withSettings (t : TransactionRef) (f : Details → Details) :
    (a.withSettings c).reviseTransaction t f = (a.reviseTransaction t f).withSettings c := by
  have hsame : (a.withSettings c).transaction? t = a.transaction? t := rfl
  unfold reviseTransaction
  rw [hsame]
  split
  · rfl
  · split <;> rfl

theorem ensureParentId_withSettings (t : TransactionRef) :
    (a.withSettings c).ensureParentId t =
      ((a.ensureParentId t).1.withSettings c, (a.ensureParentId t).2) := by
  have hsame : (a.withSettings c).transaction? t = a.transaction? t := rfl
  unfold ensureParentId
  rw [hsame]
  split
  · rfl
  · split <;> rfl

theorem finishTransaction_withSettings (t : TransactionRef) (result name : Option String) :
    (a.withSettings c).finishTransaction t result name =
      ((a.finishTransaction t result name).1.withSettings c,
        (a.finishTransaction t result name).2) := by
  have hsame : (a.withSettings c).transaction? t = a.transaction? t := rfl
  unfold finishTransaction
  rw [hsame]
  split
  · rfl
  · split
    · rfl
    · simp only [← enqueueAll_withSettings]
      rfl

theorem beginSpanIn_withSettings (t : TransactionRef) (b : SpanBuilder)
    (parent : Option SpanHandle) :
    (a.withSettings c).beginSpanIn t b parent =
      ((a.beginSpanIn t b parent).1.withSettings c, (a.beginSpanIn t b parent).2) := by
  have hsame : (a.withSettings c).transaction? t = a.transaction? t := rfl
  have henclosing : (a.withSettings c).enclosing t parent = a.enclosing t parent := rfl
  unfold beginSpanIn
  rw [hsame]
  split
  · rfl
  · rw [henclosing]
    split
    · rfl
    · simp only [← noteAll_withSettings]
      rfl

theorem changeSpan_withSettings (s : SpanHandle) (change : SpanChange) :
    (a.withSettings c).changeSpan s change = (a.changeSpan s change).withSettings c := by
  cases change <;> cases s <;> rfl

theorem outboundOfSpan_withSettings (s : SpanHandle) :
    (a.withSettings c).outboundOfSpan s =
      ((a.outboundOfSpan s).1.withSettings c, (a.outboundOfSpan s).2) := by
  cases s with
  | detached => rfl
  | standIn t i => rfl
  | recording t i =>
    have hsame : (a.withSettings c).transaction? t = a.transaction? t := rfl
    unfold outboundOfSpan
    dsimp only
    rw [hsame]
    split <;> rfl

/-- How many frames are collected for a span that ends is asked of its transaction. -/
theorem endSpan_withSettings (s : SpanHandle) (default : Outcome) :
    (a.withSettings c).endSpan s default = (a.endSpan s default).withSettings c := by
  cases s with
  | detached => rfl
  | standIn t i => rfl
  | recording t i =>
    have hsame : (a.withSettings c).transaction? t = a.transaction? t := rfl
    have hnow : (a.withSettings c).now = a.now := rfl
    unfold endSpan
    dsimp only
    rw [hsame, hnow]
    split
    · rfl
    · split
      · rfl
      · split
        · rfl
        · simp only [← enqueueAll_withSettings]
          split <;> rfl

theorem shutdown_withSettings :
    (a.withSettings c).shutdown = (a.shutdown.1.withSettings c, a.shutdown.2) :=
  Prod.ext (noteAll_withSettings { a with queue := a.queue.shutdown.1 } c _) rfl

theorem outbound_withSettings :
    (a.withSettings c).outbound = (a.outbound.1.withSettings c, a.outbound.2) := by
  have hcurrent : (a.withSettings c).currentSpan = a.currentSpan := rfl
  unfold outbound
  rw [hcurrent]
  split
  · exact outboundOfSpan_withSettings a c _
  · rfl

theorem injectHeaders_withSettings (headers : Headers) :
    (a.withSettings c).injectHeaders headers =
      ((a.injectHeaders headers).1.withSettings c, (a.injectHeaders headers).2) := by
  have hcurrent : (a.withSettings c).currentTransaction.bind (a.withSettings c).transaction? =
    a.currentTransaction.bind a.transaction? := rfl
  unfold injectHeaders
  rw [hcurrent]
  split
  · rfl
  · rw [outbound_withSettings]

/-! ### Actions -/

variable {a c} {act : Action}

/-- **What does not read the settings does not depend on them.** -/
theorem perform_withSettings (hreads : act.readsSettings = false)
    (hchanges : act.changesSettings = false) :
    (a.withSettings c).perform act = (a.perform act).withSettings c := by
  cases act with
  | advance | moveTo | switchThread | setTransaction | setSpan => rfl
  | updateConfig => cases hchanges
  | attach x => exact congrArg Prod.fst (attach_withSettings a c x)
  | dropGuard g => exact dropGuard_withSettings a c g
  | beginTransaction => cases hreads
  | changeTransaction t change => cases change <;> exact reviseTransaction_withSettings a c t _
  | ensureParentId t => exact congrArg Prod.fst (ensureParentId_withSettings a c t)
  | finishTransaction t result name =>
    exact congrArg Prod.fst (finishTransaction_withSettings a c t result name)
  | beginSpan t b parent => exact congrArg Prod.fst (beginSpanIn_withSettings a c t b parent)
  | changeSpan s change => exact changeSpan_withSettings a c s change
  | outboundOfSpan s => exact congrArg Prod.fst (outboundOfSpan_withSettings a c s)
  | endSpan s default => exact endSpan_withSettings a c s default
  | captureError | captureMessage => cases hreads
  | forceFlush => rfl
  | shutdown => exact congrArg Prod.fst (shutdown_withSettings a c)

theorem releases_withSettings (act : Action) :
    (a.withSettings c).releases act = a.releases act := by
  cases act <;> rfl

end Agent

/-! ### Runs -/

/-- The history with other settings. -/
def History.withSettings (h : History) (c : ConfigHandle) : History :=
  { h with agent := h.agent.withSettings c }

/-- The actions but for those that change the settings. -/
def Action.withoutChanges (actions : List Action) : List Action :=
  actions.filter (!·.changesSettings)

theorem History.exists_foldl_withSettings {actions : List Action}
    (hreads : ∀ act ∈ actions, act.readsSettings = false) (h : History) (c : ConfigHandle) :
    ∃ c', actions.foldl step (h.withSettings c) =
      ((Action.withoutChanges actions).foldl step h).withSettings c' := by
  induction actions generalizing h c with
  | nil => exact ⟨c, rfl⟩
  | cons act rest ih =>
    have hrest := ih fun act hact => hreads act (List.mem_cons_of_mem _ hact)
    cases hchanges : act.changesSettings with
    | false =>
      have hstep : (h.withSettings c).step act = (h.step act).withSettings c := by
        have hperform := Agent.perform_withSettings (a := h.agent) (c := c)
          (hreads act List.mem_cons_self) hchanges
        have hreleases := Agent.releases_withSettings (a := h.agent) (c := c) act
        simp only [step, withSettings, hperform, hreleases]
      have hkept : Action.withoutChanges (act :: rest) = act :: Action.withoutChanges rest := by
        simp [Action.withoutChanges, hchanges]
      obtain ⟨c', hc'⟩ := hrest (h.step act) c
      exact ⟨c', by rw [List.foldl_cons, hstep, hc', hkept, List.foldl_cons]⟩
    | true =>
      -- Settings that change take the place of other settings.
      obtain ⟨f, rfl⟩ : ∃ f, act = .updateConfig f := by
        cases act <;> simp [Action.changesSettings] at hchanges
        exact ⟨_, rfl⟩
      have hstep : (h.withSettings c).step (.updateConfig f) = h.withSettings (c.update f) := by
        simp only [step, withSettings, Agent.releases, List.append_nil]
        rfl
      have hleft :
          Action.withoutChanges (.updateConfig f :: rest) = Action.withoutChanges rest := by
        simp [Action.withoutChanges, hchanges]
      obtain ⟨c', hc'⟩ := hrest h (c.update f)
      exact ⟨c', by rw [List.foldl_cons, hstep, hc', hleft]⟩

namespace Agent

/-- **A transaction keeps the settings that it began with.** After it has begun let anything happen
but that a transaction begins or an error is captured. It comes to the same whether or not the
settings change meanwhile, by an update or by a replacement: what is queued, what becomes of all
spans, what is released, how many frames are asked for, and which headers are written. -/
theorem run_keeps_settings (a : Agent) (b : TransactionBuilder) (actions : List Action)
    (hreads : ∀ act ∈ actions, act.readsSettings = false) :
    let begun := (a.beginTransaction b).1
    let t := (a.beginTransaction b).2
    let changing := begun.run actions
    let constant := begun.run (Action.withoutChanges actions)
    (∃ tx, changing.agent.transaction? t = some tx ∧ tx.limits = a.config.current.limits) ∧
    changing.agent.queue = constant.agent.queue ∧
    changing.agent.transactions = constant.agent.transactions ∧
    changing.ledger = constant.ledger ∧
    changing.agent.frameRequests = constant.agent.frameRequests ∧
    changing.agent = constant.agent.withSettings changing.agent.config ∧
    (∀ headers, (changing.agent.injectHeaders headers).2 =
      (constant.agent.injectHeaders headers).2) ∧
    changing.agent.outbound.2 = constant.agent.outbound.2 ∧
    ∀ s, (changing.agent.outboundOfSpan s).2 = (constant.agent.outboundOfSpan s).2 := by
  intro begun t changing constant
  obtain ⟨c, hc⟩ := History.exists_foldl_withSettings hreads ⟨begun, []⟩ begun.config
  have hagent : changing.agent = constant.agent.withSettings c := congrArg History.agent hc
  have hledger : changing.ledger = constant.ledger := (congrArg History.ledger hc).trans rfl
  obtain ⟨tx, htx, -, hlimits⟩ := a.exists_begun b
  obtain ⟨tx', htx', hgrows⟩ := grows_foldl htx actions
  rw [← History.agent_foldl ⟨begun, []⟩] at htx'
  refine ⟨⟨tx', htx', hgrows.limits.trans hlimits⟩, ?_, ?_, hledger, ?_, ?_, fun headers => ?_, ?_,
    fun s => ?_⟩
  all_goals rw [hagent]
  · rfl
  · rfl
  · rfl
  · rfl
  · rw [injectHeaders_withSettings]
  · rw [outbound_withSettings]
  · rw [outboundOfSpan_withSettings]

/-- The settings come to allow one span only. The transaction has begun, and records four. -/
theorem run_keeps_settings_nestedCalls :
    let b : TransactionBuilder :=
      { kind := "request", caller := some (.create (.ofNat 1) (.ofNat 9) true) }
    let actions := .updateConfig (fun c => { c with maxSpans := 1 }) :: nestedCalls.tail
    let begun := (inMemory.beginTransaction b).1
    let changing := begun.run actions
    let constant := begun.run (Action.withoutChanges actions)
    (∀ act ∈ actions, act.readsSettings = false) ∧
      changing.agent.config.current.maxSpans = 1 ∧ constant.agent.config.current.maxSpans = 4 ∧
      (changing.agent.transaction? 0).map (·.created) = some 4 ∧
      changing.agent.queue = constant.agent.queue := by
  intro b actions begun changing constant
  have hreads : ∀ act ∈ actions, act.readsSettings = false := by
    simp [actions, nestedCalls, Action.readsSettings]
  exact ⟨hreads, by decide +kernel, by decide +kernel, by decide +kernel,
    (run_keeps_settings inMemory b actions hreads).2.1⟩

end Agent

end Telemetry
