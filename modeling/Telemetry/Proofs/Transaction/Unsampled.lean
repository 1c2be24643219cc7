import Telemetry.Proofs.Agent.Moves
import Telemetry.Proofs.Transaction.Admission

/-!
# Transactions that are not sampled

A transaction that is not sampled records no span, so no span of it is ever reported, dropped for
the budget or left out as too short, and there is nothing to count. All that such a transaction
gathers are stand-ins, its context and its labels, and none of these goes into its record.

## Main definitions

* `Transaction.Silent`: not sampled, and nothing to show for its spans.
* `Transaction.shown`: the transaction without what it keeps to itself.

## Main results

* `Transaction.Step.silent`: it stays so.
* `Transaction.Silent.finish_eq`: it ends with its record alone.
-/

namespace Telemetry

namespace Transaction

variable {t t' : Transaction} {J : Journal}

/-- The transaction is not sampled, and has nothing to show for its spans. -/
structure Silent (t : Transaction) : Prop where
  sampled : t.sampled = false
  started : t.started = 0
  dropped : t.dropped = 0
  stats : t.stats = []
  spans : t.spans = #[]
  slot : t.buffer.slot = none
  overflowed : t.overflowed = false
  /-- Its stand-ins are counted under no destination. -/
  uncounted : ∀ s ∈ t.standIns, s.resource = none

theorem IsNew.silent (h : t.IsNew) (hsampled : t.sampled = false) : t.Silent where
  sampled := hsampled
  started := h.started
  dropped := h.dropped
  stats := h.stats
  spans := h.spans
  slot := h.slot
  overflowed := h.overflowed
  uncounted := by simp [h.standIns]

/-- The transaction without its stand-ins, its context and its labels. -/
def shown (t : Transaction) : Transaction :=
  { t with standIns := #[], details := { t.details with context := [], labels := [] } }

@[simp] theorem ended_shown (t : Transaction) : t.shown.ended = t.ended := rfl

@[simp] theorem isRoot_shown (t : Transaction) : t.shown.isRoot = t.isRoot := rfl

@[simp] theorem shown_shown (t : Transaction) : t.shown.shown = t.shown := rfl

theorem Silent.shown (h : t.Silent) : t.shown.Silent :=
  { h with uncounted := by simp [Transaction.shown] }

theorem Silent.withStandIns (h : t.Silent) (standIns : Array StandIn)
    (huncounted : ∀ s ∈ standIns, s.resource = none) : ({ t with standIns } : Transaction).Silent :=
  { h with uncounted := huncounted }

/-! ### Operations -/

/-- Whatever encloses a span, it is not recorded. -/
theorem Silent.admission (h : t.Silent) (e : Enclosing) : t.admission e = .error .notRecording :=
  admission_of_not_sampled h.sampled

theorem Silent.openStandIn (h : t.Silent) (b : SpanBuilder) (now : Instant) :
    (t.openStandIn b .notRecording now).Silent := by
  refine h.withStandIns (t.standIns.push (b.standIn .notRecording now)) fun s hs => ?_
  rcases Array.mem_push.mp hs with hmem | rfl
  · exact h.uncounted s hmem
  · rfl

theorem Silent.modifyStandIn (h : t.Silent) (i : Nat) {g : StandIn → StandIn}
    (hg : ∀ s, (g s).resource = s.resource) : (t.modifyStandIn i g).Silent := by
  refine h.withStandIns (t.standIns.modify i g) fun s hs => ?_
  obtain ⟨j, hj⟩ := Array.getElem?_of_mem hs
  rw [Array.getElem?_modify] at hj
  split at hj
  · obtain ⟨s', hs', rfl⟩ := Option.map_eq_some_iff.mp hj
    rw [hg, h.uncounted s' (Array.mem_of_getElem? hs')]
  · exact h.uncounted s (Array.mem_of_getElem? hj)

/-- A stand-in that ends is not counted. -/
theorem Silent.endStandIn_eq (h : t.Silent) (i : Nat) (default : Outcome) (now : Instant) :
    t.endStandIn i default now = t ∨
      t.endStandIn i default now = t.modifyStandIn i ({ · with ended := true }) := by
  unfold endStandIn
  split
  · exact .inl rfl
  rename_i s hs
  split
  · exact .inl rfl
  · rw [h.uncounted s (Array.mem_of_getElem? hs)]
    exact .inr rfl

theorem Silent.reviseSpan_eq (h : t.Silent) (i : Nat) (f : SpanDetails → SpanDetails) :
    t.reviseSpan i f = t := by
  have hspans : t.spans.modify i (fun s => { s with details := s.details.map f }) = t.spans := by
    simp [h.spans]
  simp only [reviseSpan, modifySpan, hspans]

theorem Silent.outboundOf_eq (h : t.Silent) (i : Nat) : (t.outboundOf i).1 = t := by
  simp [outboundOf, h.spans]

theorem Silent.endSpan_eq (h : t.Silent) (i : Nat) (default : Outcome) (now : Instant)
    (frames : List Frame) : t.endSpan i default now frames = (t, []) := by
  simp [endSpan, liveSpan?, h.spans]

theorem Silent.closeAtEnd (h : t.Silent) (result name : Option String) :
    (t.closeAtEnd result name).Silent := { h with slot := rfl }

/-- **The transaction ends with its record alone**, and keeps what did not go into it. -/
theorem Silent.finish_eq (h : t.Silent) (hended : t.ended = false) (result name : Option String)
    (now : Instant) :
    t.finish result name now = (t.closeAtEnd result name,
      [.transaction ((t.closeAtEnd result name).toRecord now)]) := by
  have hclosed := h.closeAtEnd result name
  have hforget : (t.closeAtEnd result name).forgetContext = t.closeAtEnd result name := by
    simp [forgetContext, hclosed.sampled]
  rw [finish_of_not_ended hended, h.slot]
  simp only [Option.toList_none, reportAll, hforget, hclosed.overflowed]
  rfl

/-- **Whatever happens** to the transaction, it has nothing to show for its spans. -/
theorem Step.silent (hstep : t.Step J t') (h : t.Silent) : t'.Silent := by
  cases hstep with
  | idle => exact h
  | openSpan e b parent id now hadmitted =>
    rw [h.admission] at hadmitted
    cases hadmitted
  | openStandIn e b reason now hrefused =>
    rw [h.admission] at hrefused
    cases hrefused
    exact h.openStandIn b now
  | revise g =>
    unfold Transaction.revise
    split
    · exact h
    · exact { h with }
  | reviseSpan i g => rwa [h.reviseSpan_eq]
  | reviseStandIn i outcome => exact h.modifyStandIn i fun _ => rfl
  | withCaller => exact { h with }
  | endStandIn i default now =>
    rcases h.endStandIn_eq i default now with heq | heq <;> rw [heq]
    · exact h
    · exact h.modifyStandIn i fun _ => rfl
  | endSpan i default now frames => rwa [h.endSpan_eq]
  | finish result name now =>
    cases hended : t.ended with
    | true => simpa [Transaction.finish, hended] using h
    | false =>
      rw [h.finish_eq hended]
      exact h.closeAtEnd result name

end Transaction

end Telemetry
