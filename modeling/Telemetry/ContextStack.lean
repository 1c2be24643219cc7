import Telemetry.Notice

/-!
# The current transaction and span

What is current on a thread is a context: a transaction and a span. Attaching a context makes it
current and saves the one before; the guard that comes back restores it when it is dropped. Guards
may be dropped in any order. Dropping one out of turn leaves a gap among the saved contexts, and the
gaps at the end go away with the next guard that is dropped in turn.

A guard is a position: the number of contexts saved once its own was attached. Positions stay below
a limit; an attachment past it is refused, changes nothing, and its guard restores nothing.

## Main definitions

* `SpanHandle`, `Context`.
* `ContextStack`, `ContextStack.attach`, `ContextStack.drop`.
* `ContextStack.setTransaction`, `ContextStack.setSpan`.
-/

namespace Telemetry

/-- The place of a transaction among all transactions. -/
abbrev TransactionRef := Nat

/-- What instrumentation holds of a span. -/
inductive SpanHandle
  /-- A recorded span: its transaction, and its place there. -/
  | recording (transaction : TransactionRef) (place : Nat)
  /-- A stand-in: its transaction, and its place there. -/
  | standIn (transaction : TransactionRef) (place : Nat)
  /-- A stand-in that belongs to no transaction. -/
  | detached
  deriving DecidableEq, Repr

/-- The transaction that a span belongs to. -/
def SpanHandle.transaction? : SpanHandle → Option TransactionRef
  | .recording t _ => some t
  | .standIn t _ => some t
  | .detached => none

/-- Both are the same recorded span, or neither is recorded. -/
def SpanHandle.sameSpan : SpanHandle → SpanHandle → Bool
  | .recording t i, .recording u j => t = u && i = j
  | .recording _ _, _ => false
  | _, .recording _ _ => false
  | _, _ => true

/-- A transaction and a span. They are kept as they were set, also when they have ended since. -/
structure Context where
  transaction : Option TransactionRef := none
  span : Option SpanHandle := none
  deriving DecidableEq, Repr

namespace Context

/-- The context with a transaction and no span. -/
def withTransaction (_ : Context) (t : TransactionRef) : Context := ⟨some t, none⟩

/-- The context with another span. -/
def withSpan (c : Context) (s : SpanHandle) : Context := { c with span := some s }

end Context

/-- A guard restores what was current before its context was attached. -/
structure Guard where
  position : Nat
  deriving DecidableEq, Repr

/-- The contexts of a thread: the current one, and those to be restored, of which some are gone. -/
structure ContextStack where
  current : Context := {}
  saved : Array (Option Context) := #[]

/-- A context could not be attached. -/
def Notice.attachFailed (limit : Nat) : Notice :=
  ⟨.warn, "Context.AttachFailed",
    [("message", .text (s!"Too many contexts. Max limit is {limit}. " ++
      "The current context remains unchanged as this attach failed."))]⟩

/-- A guard refers to no saved context. -/
def Notice.popOutOfBounds (position size : Nat) : Notice :=
  ⟨.warn, "Context.PopOutOfBounds",
    [("position", .count position), ("stack_length", .count size),
      ("message", .text "Attempted to pop beyond the end of the context stack")]⟩

namespace ContextStack

/-- Positions stay below this; a guard at it restores nothing. -/
def limit : Nat := 65535

/-- The guard of an attachment that was refused. -/
def refused : Guard := ⟨limit⟩

/-- Makes a context current, and returns the guard that restores the one before. -/
def attach (s : ContextStack) (c : Context) : ContextStack × Guard × List Notice :=
  let position := s.saved.size + 1
  if position < limit then (⟨c, s.saved.push (some s.current)⟩, ⟨position⟩, [])
  else (s, refused, [.attachFailed limit])

/-- Restores the newest saved context that is not gone. -/
def restore (s : ContextStack) : ContextStack :=
  let saved := s.saved.popWhile (·.isNone)
  match saved.back? with
  | some (some c) => ⟨c, saved.pop⟩
  | _ => { s with saved }

/-- Drops a guard. If it is the newest one the context before it is current again; otherwise the
saved context at its position is gone. -/
def drop (s : ContextStack) (g : Guard) : ContextStack × List Notice :=
  if g.position = 0 ∨ limit ≤ g.position then (s, [])
  else if g.position = s.saved.size then (s.restore, [])
  else if s.saved.size < g.position then (s, [.popOutOfBounds g.position s.saved.size])
  else ({ s with saved := s.saved.setIfInBounds g.position none }, [])

/-- Replaces the current transaction. Without a transaction there is no current span either. -/
def setTransaction (s : ContextStack) (t : Option TransactionRef) : ContextStack :=
  { s with current := ⟨t, if t.isNone then none else s.current.span⟩ }

/-- Replaces the current span. -/
def setSpan (s : ContextStack) (span : Option SpanHandle) : ContextStack :=
  { s with current := { s.current with span } }

end ContextStack

end Telemetry
