import Telemetry.Agent.Spans

/-!
# Tasks

Tasks take turns on a thread, so each carries a context of its own. The context is current while the
task is polled, and what the task leaves current is what it finds at its next poll.

A task may run in a span of its own. The span ends when the task completes, with success, or when
the task is given up before, with failure; after that the task does nothing to it.

## Main definitions

* `Agent.pollWith`: one poll of a task with a context.
* `SpanTask`, `Agent.spawnInSpan`, `Agent.pollInSpan`, `Agent.abandon`.
-/

namespace Telemetry

/-- A task that runs in a span of its own. `settled` says that the task is done with the span. -/
structure SpanTask where
  context : Context
  span : SpanHandle
  settled : Bool := false
  deriving DecidableEq

namespace Agent

/-- Polls a task: its context is current while `body` runs. Returns the context that the task has
afterwards. -/
def pollWith {α : Type} (a : Agent) (c : Context) (body : Agent → Agent × α) :
    Agent × Context × α :=
  let (a, guard) := a.attach c
  let (a, result) := body a
  let left := a.context
  (a.dropGuard guard, left, result)

/-- Opens a span for a task that runs in it. -/
def spawnInSpan (a : Agent) (b : SpanBuilder) : Agent × SpanTask :=
  let (a, span) := a.beginSpan b
  (a, { context := a.context.withSpan span, span })

/-- The task is done with its span, which ends. -/
def settle (a : Agent) (task : SpanTask) (outcome : Outcome) : Agent × SpanTask :=
  if task.settled then (a, task)
  else (a.endSpan task.span outcome, { task with settled := true })

/-- Polls a task that runs in a span; `body` says whether the task has completed, and may return
something else. -/
def pollInSpan {α : Type} (a : Agent) (task : SpanTask) (body : Agent → Agent × Bool × α) :
    Agent × SpanTask × Bool × α :=
  let (a, context, ready, result) := a.pollWith task.context body
  let task := { task with context }
  if ready then
    let (a, task) := a.settle task .success
    (a, task, true, result)
  else (a, task, false, result)

/-- Gives a task up. -/
def abandon (a : Agent) (task : SpanTask) : Agent :=
  (a.settle task .failure).1

end Agent

end Telemetry
