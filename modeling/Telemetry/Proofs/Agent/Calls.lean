import Telemetry.Proofs.Agent.Moves

/-!
# Nested calls

A program that measures itself with scopes runs as a forest of calls: a call opens a span, makes it
current, runs the calls inside it, and leaves the scope. What is current then follows the calls. As
long as there is room for the contexts of all calls that are open at a time, a call leaves the
contexts of the thread as it found them, whatever becomes of its span.

## Main definitions

* `Calls`, `Agent.runCalls`: a forest of calls, and running it.
* `Calls.depth`, `Calls.size`: how many calls are open at a time, and how many there are.
* `Queue.putAll`: events handed over in order.

## Main results

* `ContextStack.drop_attach`: a guard that is dropped in turn restores all that was there.
* `Agent.contexts_runCalls`: calls leave the contexts as they found them.
-/

namespace Telemetry

/-- What runs in a span, or in a transaction: calls, each with what runs inside it, and time that
passes in between. -/
inductive Calls
  | done
  | wait (d : Duration) (rest : Calls)
  | call (b : SpanBuilder) (inner rest : Calls)

namespace Calls

/-- How many calls are open at a time, at most. -/
def depth : Calls → Nat
  | .done => 0
  | .wait _ rest => rest.depth
  | .call _ inner rest => max (inner.depth + 1) rest.depth

/-- How many calls there are. -/
def size : Calls → Nat
  | .done => 0
  | .wait _ rest => rest.size
  | .call _ inner rest => inner.size + 1 + rest.size

end Calls

/-- Runs calls, one after the other, each in a scope of its own. -/
def Agent.runCalls (a : Agent) : Calls → Agent
  | .done => a
  | .wait d rest => (a.advance d).runCalls rest
  | .call b inner rest => (a.inSpan b fun a _ => (a.runCalls inner, ())).1.runCalls rest

/-- Hands events to a queue, in order. -/
def Queue.putAll (q : Queue) (events : List Event) : Queue :=
  events.foldl (fun q e => (q.put e false).1) q

namespace ContextStack

/-- A context that is attached where there is room is current, and one more is saved. -/
theorem attach_of_room {s : ContextStack} (hroom : s.saved.size + 1 < limit) (c : Context) :
    s.attach c = (⟨c, s.saved.push (some s.current)⟩, ⟨s.saved.size + 1⟩, []) := by
  simp [attach, hroom]

/-- A guard that is dropped in turn restores all that was there. -/
theorem drop_attach {s : ContextStack} (hroom : s.saved.size + 1 < limit) (c : Context) :
    (s.attach c).1.drop (s.attach c).2.1 = (s, []) := by
  rw [attach_of_room hroom]
  simp only [drop, Array.size_push, if_true]
  rw [if_neg (by omega)]
  simp [restore, Array.popWhile]

end ContextStack

namespace Agent

variable {a : Agent} {t : TransactionRef}

@[simp] theorem contexts_noteAll (a : Agent) (ns : List Notice) :
    (a.noteAll ns).contexts = a.contexts :=
  (inward_noteAll a ns).contexts

@[simp] theorem contexts_enqueueAll (a : Agent) (events : List Event) :
    (a.enqueueAll events).contexts = a.contexts :=
  (inward_enqueueAll a events).contexts

@[simp] theorem contexts_attach (a : Agent) (c : Context) :
    (a.attach c).1.contexts = (a.contexts.attach c).1 := by
  simp [attach, takeContexts]

@[simp] theorem contexts_dropGuard (a : Agent) (g : Guard) :
    (a.dropGuard g).contexts = (a.contexts.drop g).1 := by
  simp [dropGuard, takeContexts]

@[simp] theorem contexts_beginSpanIn (a : Agent) (t : TransactionRef) (b : SpanBuilder)
    (parent : Option SpanHandle) : (a.beginSpanIn t b parent).1.contexts = a.contexts :=
  (inward_beginSpanIn a t b parent).contexts

@[simp] theorem contexts_beginSpan (a : Agent) (b : SpanBuilder) :
    (a.beginSpan b).1.contexts = a.contexts := by
  unfold beginSpan
  split
  · exact contexts_beginSpanIn _ _ _ _
  · rfl

@[simp] theorem contexts_endSpan (a : Agent) (s : SpanHandle) (default : Outcome) :
    (a.endSpan s default).contexts = a.contexts :=
  (inward_endSpan a s default).contexts

/-- What runs in a scope finds its span current. -/
theorem contexts_captureSpan (a : Agent) (b : SpanBuilder) :
    (a.captureSpan b).1.contexts =
      (a.contexts.attach (a.context.withSpan (a.beginSpan b).2)).1 := by
  simp [captureSpan, context]

theorem guard_captureSpan (a : Agent) (b : SpanBuilder) :
    (a.captureSpan b).2.guard =
      (a.contexts.attach (a.context.withSpan (a.beginSpan b).2)).2.1 := by
  simp [captureSpan, context, attach, takeContexts]

theorem contexts_leaveScope (a : Agent) (s : SpanScope) (default : Outcome) :
    (a.leaveScope s default).contexts = (a.contexts.drop s.guard).1 := by
  simp [leaveScope]

theorem contexts_traceFor (a : Agent) (b : TransactionBuilder) (id : SpanId) :
    (a.traceFor b id).1.contexts = a.contexts := by
  unfold traceFor
  split
  · exact contexts_noteAll _ _
  split <;> exact contexts_noteAll _ _

/-- A transaction that is activated is current, without a span. -/
theorem contexts_beginTransaction {b : TransactionBuilder} (hactive : b.activate = true) :
    (a.beginTransaction b).1.contexts =
      ⟨⟨some (a.beginTransaction b).2, none⟩, a.contexts.saved⟩ := by
  have hsaved := congrArg (·.saved) (contexts_traceFor a.freshSpanId.1 b a.freshSpanId.2)
  simp only [beginTransaction, hactive, if_true]
  exact congrArg (ContextStack.mk _) hsaved

/-- A scope leaves the contexts as it found them if what runs in it does. -/
theorem contexts_inSpan {α : Type} (b : SpanBuilder) (body : Agent → SpanHandle → Agent × α)
    (hroom : a.contexts.saved.size + 1 < ContextStack.limit)
    (hbody : ∀ a' h, a'.contexts.saved.size = a.contexts.saved.size + 1 →
      (body a' h).1.contexts = a'.contexts) :
    (a.inSpan b body).1.contexts = a.contexts := by
  have hinside := a.contexts_captureSpan b
  have hsize : (a.captureSpan b).1.contexts.saved.size = a.contexts.saved.size + 1 := by
    rw [hinside, ContextStack.attach_of_room hroom, Array.size_push]
  change ((body (a.captureSpan b).1 (a.captureSpan b).2.span).1.leaveScope
    (a.captureSpan b).2).contexts = _
  rw [contexts_leaveScope, hbody _ _ hsize, hinside, guard_captureSpan,
    ContextStack.drop_attach hroom]

/-- **Calls leave the contexts as they found them.** -/
theorem contexts_runCalls {calls : Calls}
    (hroom : a.contexts.saved.size + calls.depth < ContextStack.limit) :
    (a.runCalls calls).contexts = a.contexts := by
  induction calls generalizing a with
  | done => rfl
  | wait d rest ih => exact ih hroom
  | call b inner rest ihInner ihRest =>
    simp only [Calls.depth] at hroom
    have hscope : (a.inSpan b fun a _ => (a.runCalls inner, ())).1.contexts = a.contexts := by
      refine contexts_inSpan b _ (by omega) fun a' _ hsize => ihInner ?_
      omega
    rw [runCalls, ihRest (by rw [hscope]; omega), hscope]

/-! ### What scopes do to the current transaction -/

variable {tx : Transaction} {parent : Option SpanHandle} {b : SpanBuilder}

@[simp] theorem ids_noteAll (a : Agent) (ns : List Notice) : (a.noteAll ns).ids = a.ids := by
  obtain ⟨_, heq⟩ := a.noteAll_eq ns
  rw [heq]

@[simp] theorem ids_enqueueAll (a : Agent) (events : List Event) :
    (a.enqueueAll events).ids = a.ids := by
  obtain ⟨_, _, heq⟩ := a.enqueueAll_eq events
  rw [heq]

theorem queue_enqueueAll (a : Agent) (events : List Event) :
    (a.enqueueAll events).queue = a.queue.putAll events := by
  induction events generalizing a with
  | nil => rfl
  | cons e rest ih => exact (ih (a.enqueue e false)).trans (by simp [enqueue, Queue.putAll])

@[simp] theorem ids_attach (a : Agent) (c : Context) : (a.attach c).1.ids = a.ids := by
  simp [attach, takeContexts]

@[simp] theorem ids_dropGuard (a : Agent) (g : Guard) : (a.dropGuard g).ids = a.ids := by
  simp [dropGuard, takeContexts]

/-- A span is opened in the current transaction, beneath the current span. -/
theorem beginSpan_of_current (hcontext : a.context = ⟨some t, parent⟩)
    (htx : a.transaction? t = some tx) (hlive : tx.ended = false) (b : SpanBuilder) :
    a.beginSpan b = a.beginSpanIn t b parent := by
  have hended : a.hasEnded t = false := by simp [hasEnded, htx, hlive]
  have hcurrent : a.currentTransaction = some t := by
    simp [currentTransaction, transactionOf, hcontext, hended]
  have hspan : a.currentSpan = parent := by
    simp [currentSpan, spanOf, hcontext, hended]
  simp only [beginSpan, hcurrent, hspan]

theorem aside_captureSpan (a : Agent) (b : SpanBuilder) :
    Aside (a.beginSpan b).1 (a.captureSpan b).1 := aside_attach _ _

/-- What is captured is what was begun, and it is current. -/
theorem captureSpan_of_current (hcontext : a.context = ⟨some t, parent⟩)
    (htx : a.transaction? t = some tx) (hlive : tx.ended = false)
    (hroom : a.contexts.saved.size + 1 < ContextStack.limit) (b : SpanBuilder) :
    let begun := a.beginSpanIn t b parent
    let inside := (a.captureSpan b).1
    (a.captureSpan b).2.span = begun.2 ∧ inside.context = ⟨some t, some begun.2⟩ ∧
      inside.contexts.saved.size = a.contexts.saved.size + 1 ∧
      inside.ids = begun.1.ids ∧ Aside begun.1 inside := by
  intro begun inside
  have hbegin : a.beginSpan b = begun := beginSpan_of_current hcontext htx hlive b
  have hcontexts : inside.contexts = _ := a.contexts_captureSpan b
  rw [hbegin, ContextStack.attach_of_room hroom] at hcontexts
  refine ⟨congrArg Prod.snd hbegin, ?_, ?_, ?_, hbegin ▸ a.aside_captureSpan b⟩
  · rw [context, hcontexts, hcontext]
    rfl
  · rw [hcontexts, Array.size_push]
  · rw [← hbegin]
    exact ids_attach _ _

/-- Leaving the scope of a live span ends it, and its records are queued. -/
theorem leaveScope_recording {i : Nat} {s : Span} {d : SpanDetails}
    (htx : a.transaction? t = some tx) (hlive : tx.liveSpan? i = some (s, d)) (g : Guard)
    (default : Outcome) :
    ∃ frames, let ended := tx.endSpan i default a.now frames
      let left := a.leaveScope ⟨.recording t i, g⟩ default
      left.transaction? t = some ended.1 ∧ left.ids = a.ids ∧
        left.queue = a.queue.putAll (ended.2.map .span) := by
  obtain ⟨frameRequests, heq⟩ := endSpan_of_live htx hlive default
  have haside := aside_dropGuard (a.endSpan (.recording t i) default) g
  refine ⟨a.framesFor tx i, ?_, ?_, ?_⟩
  · rw [transaction?, leaveScope, haside.transactions, heq, transactions_enqueueAll,
      ← transaction?]
    exact transaction?_modifyTransaction (a := { a with frameRequests }) htx _
  · rw [leaveScope, ids_dropGuard, heq, ids_enqueueAll]
    rfl
  · rw [leaveScope, haside.queue, heq, queue_enqueueAll]
    rfl

theorem leaveScope_standIn (htx : a.transaction? t = some tx) (i : Nat) (g : Guard)
    (default : Outcome) :
    let left := a.leaveScope ⟨.standIn t i, g⟩ default
    left.transaction? t = some (tx.endStandIn i default a.now) ∧ left.ids = a.ids ∧
      left.queue = a.queue := by
  have haside := aside_dropGuard (a.endSpan (.standIn t i) default) g
  refine ⟨?_, ?_, ?_⟩
  · rw [transaction?, leaveScope, haside.transactions, ← transaction?]
    exact transaction?_modifyTransaction htx _
  · exact ids_dropGuard _ _
  · exact haside.queue

end Agent

end Telemetry
