import Telemetry.Agent.Tasks

/-!
# Tasks that take turns

A thread runs tasks in turns. While a task is polled its context lies on the stack of the thread,
on top of whatever was there, and it may change what is current, attach contexts of its own, drop
the guards in any order, make tasks and poll tasks in its turn. It drops all its guards before the
poll returns.

The same program can be run with a stack for each poll, which holds nothing but the context of the
task, so that nobody can touch anything of anybody else. This is what tasks on one stack are
measured by.

## Main definitions

* `TaskOp`, `TaskProgram`: what runs on a thread.
* `TaskEvent`, `TaskLog`: what the tasks hold, and what was seen.
* `TaskProgram.run`, `TaskProgram.runApart`: on the stack of the thread, or on stacks apart.
* `TaskFrame.Fits`: no attachment is refused.
-/

namespace Telemetry

/-! ### Programs -/

/-- What a poll does by itself. Its guards are named by the order of its attachments. -/
inductive TaskOp
  | setTransaction (t : Option TransactionRef)
  | setSpan (s : Option SpanHandle)
  | beginTransaction (b : TransactionBuilder)
  | endTransaction (result name : Option String)
  | attach (c : Context)
  | dropGuard (name : Nat)
  /-- Makes a task that holds a context. -/
  | wrap (c : Context)
  /-- Makes a task that holds the current context. -/
  | wrapCurrent

/-- What runs on a thread, or during one poll: operations, and polls of tasks. -/
inductive TaskProgram
  | done
  | act (op : TaskOp) (rest : TaskProgram)
  | poll (task : Nat) (body rest : TaskProgram)

/-- What can be observed of tasks. -/
inductive TaskEvent
  /-- A task was made, and holds a context. -/
  | wrapped (c : Context)
  /-- A poll of a task began, and found a context current. -/
  | started (task : Nat) (found : Context)
  /-- A poll of a task ended, and left a context current. -/
  | finished (task : Nat) (left : Context)
  /-- Something was done after which a context is current. -/
  | saw (c : Context)
  deriving DecidableEq

/-- The contexts that tasks hold after an event: a task that is made holds the context it is given,
and a task that was polled holds what the poll left. -/
def TaskEvent.update (held : Array Context) : TaskEvent → Array Context
  | wrapped c => held.push c
  | finished task left => held.setIfInBounds task left
  | started _ _ | saw _ => held

/-- What the tasks hold, by their names, and what was observed. -/
structure TaskLog where
  held : Array Context := #[]
  events : List TaskEvent := []

/-- Something more is observed. -/
def TaskLog.record (log : TaskLog) (e : TaskEvent) : TaskLog :=
  ⟨e.update log.held, log.events ++ [e]⟩

/-- A poll while it runs, with its guards, each until it is dropped. What runs on the thread by
itself is such a frame too. -/
structure TaskFrame where
  agent : Agent
  log : TaskLog
  guards : List (Option Guard) := []

namespace TaskFrame

/-- One operation. A guard that was dropped before is not there to be dropped again. -/
def perform (f : TaskFrame) : TaskOp → TaskFrame
  | .setTransaction t => { f with agent := f.agent.setTransaction t }
  | .setSpan s => { f with agent := f.agent.setSpan s }
  | .beginTransaction b => { f with agent := (f.agent.beginTransaction b).1 }
  | .endTransaction result name => { f with agent := (f.agent.endTransaction result name).1 }
  | .attach c =>
    { f with agent := (f.agent.attach c).1, guards := f.guards ++ [some (f.agent.attach c).2] }
  | .dropGuard name =>
    match f.guards[name]? with
    | some (some g) => { f with agent := f.agent.dropGuard g, guards := f.guards.set name none }
    | _ => f
  | .wrap c => { f with log := f.log.record (.wrapped c) }
  | .wrapCurrent => { f with log := f.log.record (.wrapped f.agent.context) }

/-- The frame after it was noted what is current. -/
def look (f : TaskFrame) : TaskFrame := { f with log := f.log.record (.saw f.agent.context) }

/-- One operation, and what is current after it. -/
def step (f : TaskFrame) (op : TaskOp) : TaskFrame := (f.perform op).look

/-- Drops the guards that are left, the newest first. -/
def finish (f : TaskFrame) : TaskFrame :=
  ((List.range f.guards.length).reverse.map .dropGuard).foldl step f

/-- Runs a program, in which tasks are polled by `pollBy`. A task that does not exist is not
polled. -/
def runBy (pollBy : Agent → Context → (Agent → Agent × TaskLog) → Agent × Context × TaskLog)
    (f : TaskFrame) : TaskProgram → Agent × TaskLog
  | .done => (f.finish.agent, f.finish.log)
  | .act op rest => (f.step op).runBy pollBy rest
  | .poll task body rest =>
    match f.log.held[task]? with
    | none => f.runBy pollBy rest
    | some c =>
      let polled := pollBy f.agent c fun a =>
        runBy pollBy ⟨a, f.log.record (.started task a.context), []⟩ body
      (TaskFrame.look ⟨polled.1, polled.2.2.record (.finished task polled.2.1), f.guards⟩).runBy
        pollBy rest

end TaskFrame

/-- A poll that runs on a stack apart, which holds nothing but the context of the task. -/
def Agent.pollApart {α : Type} (a : Agent) (c : Context) (body : Agent → Agent × α) :
    Agent × Context × α :=
  let (inside, result) := body { a with contexts := ⟨c, #[]⟩ }
  ({ inside with contexts := a.contexts }, inside.context, result)

namespace TaskProgram

/-- Runs a program on the stack of the thread. -/
def run (p : TaskProgram) (a : Agent) (log : TaskLog) : Agent × TaskLog :=
  TaskFrame.runBy Agent.pollWith ⟨a, log, []⟩ p

/-- Runs a program in which every poll has a stack of its own. -/
def runApart (p : TaskProgram) (a : Agent) (log : TaskLog) : Agent × TaskLog :=
  TaskFrame.runBy Agent.pollApart ⟨a, log, []⟩ p

end TaskProgram

namespace TaskFrame

/-- There is room for one more context on the stack of the thread. -/
def Room (f : TaskFrame) : Prop := f.agent.contexts.saved.size + 1 < ContextStack.limit

/-- An operation is not refused for want of room. -/
def OpFits (f : TaskFrame) : TaskOp → Prop
  | .attach _ => f.Room
  | _ => True

/-- **No attachment of a program is refused**: wherever a context is attached, by an operation or
by a poll, there is room for it. -/
def Fits (f : TaskFrame) : TaskProgram → Prop
  | .done => True
  | .act op rest => f.OpFits op ∧ (f.step op).Fits rest
  | .poll task body rest =>
    match f.log.held[task]? with
    | none => f.Fits rest
    | some c =>
      let inside := (f.agent.attach c).1
      let polled := f.agent.pollWith c fun a =>
        runBy Agent.pollWith ⟨a, f.log.record (.started task a.context), []⟩ body
      f.Room ∧ Fits ⟨inside, f.log.record (.started task inside.context), []⟩ body ∧
        (look ⟨polled.1, polled.2.2.record (.finished task polled.2.1), f.guards⟩).Fits rest

instance decidableOpFits (f : TaskFrame) : (op : TaskOp) → Decidable (f.OpFits op)
  | .attach _ => inferInstanceAs (Decidable (_ < _))
  | .setTransaction _ | .setSpan _ | .beginTransaction _ | .endTransaction _ _ | .dropGuard _
  | .wrap _ | .wrapCurrent => isTrue trivial

instance decidableFits (f : TaskFrame) : (p : TaskProgram) → Decidable (f.Fits p)
  | .done => isTrue trivial
  | .act op rest =>
    have := decidableFits (f.step op) rest
    inferInstanceAs (Decidable (_ ∧ _))
  | .poll task body rest =>
    match hheld : f.log.held[task]? with
    | none =>
      have := decidableFits f rest
      decidable_of_iff (f.Fits rest) (by rw [Fits, hheld])
    | some c =>
      let inside := (f.agent.attach c).1
      let polled := f.agent.pollWith c fun a =>
        runBy Agent.pollWith ⟨a, f.log.record (.started task a.context), []⟩ body
      let after := look ⟨polled.1, polled.2.2.record (.finished task polled.2.1), f.guards⟩
      have := decidableFits ⟨inside, f.log.record (.started task inside.context), []⟩ body
      have := decidableFits after rest
      decidable_of_iff (f.agent.contexts.saved.size + 1 < ContextStack.limit ∧
        Fits ⟨inside, f.log.record (.started task inside.context), []⟩ body ∧ after.Fits rest)
        (by rw [Fits, hheld]; rfl)

end TaskFrame

end Telemetry
