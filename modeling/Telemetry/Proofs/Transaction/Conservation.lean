import Telemetry.Proofs.Transaction.References

/-!
# No span is lost or reported twice

A span that is admitted against the budget of its transaction is accounted for ever after. As long
as it has not ended it is live; then it is held by some buffer, by itself or as a member of a
composite; in the end it is reported, or left out as too short and counted as dropped.

The invariant ties the counters of a transaction to its spans, its buffers and its journal. A
composite counts with all its members. A record shows a composite only where there are several, and
counts as one otherwise, so it matters that nothing that is held counts for none.

## Main definitions

* `SpanRecord.weight`: how many spans a record stands for.
* `Transaction.Conserved`.

## Main results

* `Journal.sum_weight_records`: what is released was reported or left out.
* `Transaction.isInvariant_conserved`.
* `Agent.run_conserves_spans`: conservation, for all runs.
-/

namespace Telemetry

/-- How many spans a record stands for. -/
def SpanRecord.weight (r : SpanRecord) : Nat :=
  match r.composite with
  | some c => c.count
  | none => 1

theorem FinishedSpan.weight_toRecord {s : FinishedSpan} (h : 0 < s.count) :
    s.toRecord.weight = s.count := by
  unfold FinishedSpan.count at h ⊢
  cases hc : s.composite with
  | none => simp [toRecord, SpanRecord.weight, hc]
  | some c =>
    simp only [hc] at h
    by_cases htwo : 2 ≤ c.count
    · simp only [toRecord, SpanRecord.weight, hc, Option.filter_some, htwo, decide_true, if_true]
    · simp only [toRecord, SpanRecord.weight, hc, Option.filter_some, htwo, decide_false,
        Bool.false_eq_true, if_false]
      omega

/-- What was released was reported or left out. -/
theorem Journal.sum_weight_records {J : Journal} (h : ∀ r ∈ J, 0 < r.span.count) :
    ((records J).map (·.weight)).sum + discarded J = (J.map (·.span.count)).sum := by
  induction J with
  | nil => rfl
  | cons r rest ih =>
    have hr := FinishedSpan.weight_toRecord (h r List.mem_cons_self)
    have ih := ih fun r hr => h r (List.mem_cons_of_mem _ hr)
    rw [← List.singleton_append, records_append, discarded_append]
    cases hreported : r.reported <;> simp [records, discarded, hreported, hr] at ih ⊢ <;> omega

namespace Transaction

variable {t t' : Transaction} {J K : Journal}

/-- Every span that was admitted is accounted for. -/
structure Conserved (t : Transaction) (J : Journal) : Prop where
  nested : t.Nested
  counted : ∀ f ∈ J.map (·.span) ++ t.held, 0 < f.count
  created : t.created =
    t.liveOutlines.length + ((J.map (·.span) ++ t.held).map (·.count)).sum
  started : t.started = (Journal.records J).length
  dropped : t.dropped = Journal.discarded J + t.refusals

theorem conserved_of_isNew (h : t.IsNew) : t.Conserved [] where
  nested := by simp [Nested, outlines, h.spans]
  counted := by simp [held, h.spans, h.slot]
  created := by simp [held, liveOutlines, h.created, h.spans, h.slot]
  started := by simp [h.started]
  dropped := by simp [refusals, h.dropped, h.standIns]

/-- A step keeps the balance between what was admitted and what is accounted for. -/
theorem Effect.conserves (h : Effect t K t') :
    t'.created + t.liveOutlines.length + (t.held.map (·.count)).sum =
      t.created + t'.liveOutlines.length + ((K.map (·.span) ++ t'.held).map (·.count)).sum := by
  cases h with
  | quiet hsame hcreated hheld => rw [hcreated, hsame.live, (hheld.map _).sum_nat]
  | opened o _ hlive _ _ hcreated hJ hheld =>
    rw [hcreated, hlive, hJ, hheld, List.length_append, List.length_singleton, List.map_nil,
      List.nil_append]
    omega
  | ended o f _ _ hlive _ hcreated hfinishes hjoins =>
    rw [hcreated, hlive.length_eq, hjoins.sum_count hfinishes.plain, List.length_cons]
    omega

/-- **The invariant of conservation.** -/
theorem isInvariant_conserved : IsInvariant Conserved where
  new := conserved_of_isNew
  step := by
    intro t t' J K hstep hov h
    have heffect := hstep.effect h.nested hov
    have htallied := hstep.tallied hov
    have hcounted : ∀ f ∈ K.map (·.span) ++ t'.held, 0 < f.count := by
      refine heffect.forall (fun o f _ hf => ?_) (fun f _ g strategy _ => ?_) fun f hf => ?_
      · simp [FinishedSpan.count, hf.plain]
      · simp [FinishedSpan.count, FinishedSpan.absorb]
      · exact h.counted f (List.mem_append_right _ hf)
    refine
      { nested := heffect.nested h.nested
        counted := fun f hf => ?_
        created := ?_
        started := ?_
        dropped := ?_ }
    · rw [List.map_append, List.append_assoc, List.mem_append] at hf
      exact hf.elim (fun hf => h.counted f (List.mem_append_left _ hf)) (hcounted f)
    · have hbalance := heffect.conserves
      have hcreated := h.created
      simp only [List.map_append, List.sum_append, List.map_map] at hbalance hcreated ⊢
      omega
    · rw [htallied.started, h.started, Journal.records_append, List.length_append]
    · have hdropped := htallied.dropped
      rw [h.dropped] at hdropped
      rw [Journal.discarded_append]
      omega

theorem Conserved.created_eq (h : t.Conserved J) :
    t.created = t.spans.countP (!·.ended) + (t.held.map (·.count)).sum +
      ((Journal.records J).map (·.weight)).sum + Journal.discarded J := by
  have hlive : t.liveOutlines.length = t.spans.countP (!·.ended) := by
    rw [liveOutlines, List.length_map, ← List.countP_eq_length_filter, Array.countP_toList]
  have hweights : ((Journal.records J).map (·.weight)).sum + Journal.discarded J =
      (J.map (·.span.count)).sum :=
    Journal.sum_weight_records fun r hr =>
      h.counted r.span (List.mem_append_left _ (List.mem_map_of_mem hr))
  have hcreated := h.created
  rw [hlive, List.map_append, List.sum_append, List.map_map] at hcreated
  simp only [Function.comp_def] at hcreated
  omega

theorem Conserved.spanCount_dropped (h : t.Conserved J) :
    t.spanCount.dropped =
      Journal.discarded J + t.standIns.countP (·.reason = .maxSpansExceeded) := by
  rw [Transaction.spanCount, h.dropped, refusals, Array.countP_toList]

end Transaction

/-- **No span is lost or reported twice.** Let any operations happen to an agent that has not begun
a transaction yet, and let no duration overflow. For each transaction:

* so many spans were admitted as have not ended, are held by its buffers or those of its spans, are
  in records that were reported, or were left out as too short, members of composites included;
* it counts as sent the records that were reported;
* it counts as dropped the spans that were left out, and the stand-ins that it gave out because its
  budget was used up.

The ledger tells what was reported by which transaction, and a queue that keeps everything has just
these records. Where no two transactions have got the same identifier, the records of one are those
that carry its identifier. -/
theorem Agent.run_conserves_spans {a : Agent} {actions : List Action}
    (hnone : a.transactions = #[]) (hov : (a.run actions).agent.overflowed = false) :
    (∀ t tx, (a.run actions).agent.transaction? t = some tx →
      tx.created = tx.spans.countP (!·.ended) + (tx.held.map (·.count)).sum +
        ((Journal.records ((a.run actions).ledger.journal t)).map (·.weight)).sum +
        Journal.discarded ((a.run actions).ledger.journal t) ∧
      tx.spanCount.started = (Journal.records ((a.run actions).ledger.journal t)).length ∧
      tx.spanCount.dropped =
        Journal.discarded ((a.run actions).ledger.journal t) +
          tx.standIns.countP (·.reason = .maxSpansExceeded)) ∧
    a.Queued (Ledger.records (a.run actions).ledger) (a.run actions).agent ∧
    ((a.run actions).agent.transactionIds.Nodup →
      ∀ t tx, (a.run actions).agent.transaction? t = some tx →
        (Ledger.records (a.run actions).ledger).filter (·.transactionId = tx.id) =
          Journal.records ((a.run actions).ledger.journal t)) := by
  have hkeeps := run_keeps Transaction.isInvariant_conserved hnone hov
  refine ⟨fun t tx htx => ?_, run_queued hov, fun hids t tx htx => ?_⟩
  · have h := hkeeps.known htx
    refine ⟨h.created_eq, h.started, ?_⟩
    rw [Transaction.spanCount, h.dropped, Transaction.refusals, Array.countP_toList]
  · exact records_filter_transactionId (run_keeps Transaction.isInvariant_referring hnone hov)
      hids htx

/-- Of the four spans two are merged and one is too short; a fifth was refused. -/
theorem Agent.run_conserves_spans_nestedCalls :
    ((inMemory.run nestedCalls).agent.transaction? 0).map (fun tx => (tx.created, tx.spanCount)) =
      some (4, ⟨2, 2⟩) ∧
    (inMemory.run nestedCalls).agent.overflowed = false ∧
    ∀ tx, (inMemory.run nestedCalls).agent.transaction? 0 = some tx →
      tx.created = tx.spans.countP (!·.ended) + (tx.held.map (·.count)).sum +
        ((Journal.records ((inMemory.run nestedCalls).ledger.journal 0)).map (·.weight)).sum +
        Journal.discarded ((inMemory.run nestedCalls).ledger.journal 0) := by
  have hov : (inMemory.run nestedCalls).agent.overflowed = false := by decide +kernel
  exact ⟨by decide +kernel, hov, fun tx htx => ((run_conserves_spans rfl hov).1 0 tx htx).1⟩

end Telemetry
