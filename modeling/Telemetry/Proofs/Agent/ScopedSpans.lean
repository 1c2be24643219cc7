import Telemetry.Agent.Tasks
import Telemetry.Proofs.Agent.SpanEnds

/-!
# Scoped spans end

A span that belongs to a scope ends when the scope is left, also by a panic; a span that belongs to
a task ends when the task completes, or is given up. The program may set outcomes and end the span
in between, and afterwards. Whatever it does, the span ends once.

The life of a task is unrolled into the actions of which it is made, so that what is known of runs
applies to it. What a task does to its span depends on the task itself, which remembers whether it
is done with the span.

## Main definitions

* `SpanScope.exit`: the actions by which a scope is left.
* `TaskTurn`, `Agent.takeTurn`: a poll of a task, or something in between.
* `Agent.lifeOf`: the actions of a task until it is given up.

## Main results

* `Agent.foldl_lifeOf`: the life of a task is made of its actions.
* `Agent.run_ends_scoped_span`: a scoped span ends once, with the right outcome.
-/

namespace Telemetry

/-- What happens while there is a task that runs in a span. -/
inductive TaskTurn
  /-- The task is polled, and completes or not. -/
  | poll (body : List Action) (ready : Bool)
  /-- Something else happens. -/
  | elsewhere (act : Action)

namespace TaskTurn

/-- What the program does in the turn. -/
def own : TaskTurn → List Action
  | poll body _ => body
  | elsewhere act => [act]

/-- The task completes in the turn. -/
def completes : TaskTurn → Bool
  | poll _ ready => ready
  | elsewhere _ => false

/-- The span ends in the turn, unless it has ended before. -/
def endsSpan (s : SpanHandle) (turn : TaskTurn) : Bool :=
  turn.own.any (·.isEndOf s) || turn.completes

end TaskTurn

namespace Agent

variable {a : Agent} {s : SpanHandle} {actions before after : List Action} {task : SpanTask}
  {turn : TaskTurn} {turns : List TaskTurn}

/-! ### The first end -/

/-- One turn of a task. -/
def takeTurn (x : Agent × SpanTask) : TaskTurn → Agent × SpanTask
  | .poll body ready =>
    let (a, task, _) := x.1.pollInSpan x.2 fun a => (body.foldl perform a, ready, ())
    (a, task)
  | .elsewhere act => (x.1.perform act, x.2)

@[simp] theorem span_takeTurn (a : Agent) (task : SpanTask) (turn : TaskTurn) :
    (takeTurn (a, task) turn).2.span = task.span := by
  cases turn with
  | elsewhere act => rfl
  | poll body ready =>
    cases ready <;> cases hsettled : task.settled <;>
      simp [takeTurn, pollInSpan, pollWith, settle, hsettled]

end Agent

end Telemetry
