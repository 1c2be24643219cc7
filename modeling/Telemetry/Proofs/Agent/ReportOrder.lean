import Telemetry.Proofs.Agent.Story

/-!
# Children that ended first are reported first

When a span is offered to the buffer of its parent, or leaves it, and when a transaction is
reported, everything has left that ended beneath it before: by itself, as a member of a composite,
or left out and counted. And what ended beneath one parent leaves in the order in which it ended.

The order is that of the moments of a story. The queue has the events of the story in this order, so
what leaves a buffer earlier is queued earlier.

## Main results

* `Chronicle.Orderly.exists_run_settled`: what leaves a buffer, and what had left before.
* `Agent.run_reports_children_first`: the order of reports, for all runs.
-/

namespace Telemetry

/-- Whatever leaves a buffer is made of spans that have ended before, and when they ended nothing
was waiting beneath them. -/
theorem Chronicle.Orderly.exists_run_settled {A B C : Chronicle} {parent : Option Nat}
    {r : Release} (h : C.Orderly) (heq : C = A ++ .left parent r :: B) :
    ∃ run, r.span.IsMadeOf run ∧ ∀ f ∈ run, ∃ (i : Nat) (A' B' : Chronicle),
      A = A' ++ .ended i parent f :: B' ∧ A'.Settled (some i) := by
  obtain ⟨run, hmade, hrun⟩ := h.exists_run heq
  refine ⟨run, hmade, fun f hf => ?_⟩
  obtain ⟨i, hended⟩ := hrun f hf
  obtain ⟨A', B', rfl⟩ := List.append_of_mem hended
  refine ⟨i, A', B', rfl, h.settled A' (.ended i parent f) (B' ++ .left parent r :: B) ?_ _ rfl⟩
  rw [heq, List.append_assoc, List.cons_append]

/-- **Children that ended first are reported first.** Let any operations happen to an agent that has
not begun a transaction yet, and let no duration overflow. The chronicle of each transaction tells
of each of its spans that has ended, once and with its parent. In it

* when a span is offered to a buffer, all that ended beneath it before has left its own buffer, in
  releases that are each made of one run of it;
* when something leaves a buffer, it is made of spans of which this holds;
* when the transaction is reported, all that ended beneath it has left its buffer;
* at every moment, what has left a buffer is made of the spans that ended beneath its parent, of one
  run after the other, in the order in which they ended.

What leaves a buffer is reported, or left out and counted as dropped. The story puts the chronicles
of all transactions in one order, which is that of the events in a queue that keeps everything. -/
theorem Agent.run_reports_children_first {a : Agent} {actions : List Action}
    (hnone : a.transactions = #[]) (hov : (a.run actions).agent.overflowed = false) :
    (∀ t tx, (a.run actions).agent.transaction? t = some tx →
      let C := (a.story actions).of t
      ((C.filterMap (·.place?)).Nodup ∧
        (∀ i parent f, .ended i parent f ∈ C → ∃ s, tx.spans[i]? = some s ∧ s.ended = true ∧
          s.parent = parent ∧ f.record.id = s.id) ∧
        ∀ (i : Nat) s, tx.spans[i]? = some s → s.ended = true → ∃ f, .ended i s.parent f ∈ C) ∧
      (∀ (A : Chronicle) i parent f B, C = A ++ .ended i parent f :: B → A.Settled (some i)) ∧
      (∀ (A : Chronicle) parent r B, C = A ++ .left parent r :: B → ∃ run, r.span.IsMadeOf run ∧
        ∀ f ∈ run, ∃ (i : Nat) (A' B' : Chronicle),
          A = A' ++ .ended i parent f :: B' ∧ A'.Settled (some i)) ∧
      (∀ (A : Chronicle) record B, C = A ++ .reported record :: B → A.Settled none) ∧
      (∀ A : Chronicle, A <+: C → ∀ parent, A.InOrder parent) ∧
      tx.spanCount.started = (Journal.records C.journal).length ∧
      tx.spanCount.dropped =
        Journal.discarded C.journal + tx.standIns.countP (·.reason = .maxSpansExceeded)) ∧
    a.Received (a.story actions).events (a.run actions).agent := by
  refine ⟨fun t tx htx => ?_, story_received hov⟩
  have hc := (story_chronicled hnone hov).known htx
  have horderly := hc.segmented.orderly
  have htold : ∀ i parent f, .ended i parent f ∈ (a.story actions).of t → ∃ s,
      tx.spans[i]? = some s ∧ s.ended = true ∧ s.parent = parent ∧ f.record.id = s.id := by
    intro i parent f hm
    obtain ⟨s, hs, hended, hparent, hf⟩ := hc.recounted.told hm
    exact ⟨s, hs, hended, hparent, hf.id⟩
  refine ⟨⟨hc.recounted.once, htold, fun i s hs hended => (hc.recounted.ended hs hended).2⟩,
    fun A i parent f B heq => horderly.settled A _ B heq _ rfl,
    fun A parent r B heq => horderly.exists_run_settled heq,
    fun A record B heq => horderly.settled A _ B heq _ rfl, horderly.inOrder,
    hc.conserved.started, hc.conserved.spanCount_dropped⟩

/-- Two calls are merged, and leave the buffer when a short one is offered. That one leaves when the
span ends that encloses them, before that span is offered and reported. -/
theorem Agent.run_reports_children_first_nestedCalls :
    inMemory.transactions = #[] ∧ (inMemory.run nestedCalls).agent.overflowed = false ∧
    ((inMemory.story nestedCalls).of 0).filterMap (·.place?) = [2, 1, 3, 0] ∧
    ((inMemory.story nestedCalls).of 0).journal.map (fun r => (r.span.count, r.reported)) =
      [(2, true), (1, false), (1, true)] ∧
    ∃ tx, (inMemory.run nestedCalls).agent.transaction? 0 = some tx ∧
      ∀ (A : Chronicle) i parent f B,
        (inMemory.story nestedCalls).of 0 = A ++ .ended i parent f :: B → A.Settled (some i) := by
  have hov : (inMemory.run nestedCalls).agent.overflowed = false := by decide +kernel
  have hsome : ((inMemory.run nestedCalls).agent.transaction? 0).isSome = true := by
    decide +kernel
  obtain ⟨tx, htx⟩ := Option.isSome_iff_exists.mp hsome
  exact ⟨rfl, hov, by decide +kernel, by decide +kernel, tx, htx,
    ((run_reports_children_first rfl hov).1 0 tx htx).2.1⟩

end Telemetry
