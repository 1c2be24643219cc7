import Mathlib.Data.List.Nodup
import Telemetry.Proofs.Agent.Run

/-!
# Every parent that is named is reported

The record of a span names the span that it lies beneath. Merging and leaving out make spans
disappear from the report, so it has to be shown that none of those is named by another record. What
is merged or left out are leaves, and nothing is recorded beneath a leaf. So every other span is
reported when it ends, once and by itself.

The invariant says of every finished span, held or released, what its record refers to, and which
span it came from. For the spans that are no leaves it says in addition that those which were
released are those which have ended.

## Main definitions

* `Transaction.Refers`: what the record of a finished span refers to.
* `FinishedSpan.branchIds`: the finished spans that are no leaves.
* `Transaction.Referring`.
* `Agent.spanIds`.

## Main results

* `Transaction.isInvariant_referring`.
* `Transaction.Referring.records_filter`: a span that is no leaf is reported once.
* `Agent.run_keeps_references`: the integrity of references, for all runs.
-/

namespace Telemetry

namespace FinishedSpan

variable {f : FinishedSpan} {l l' : List FinishedSpan}

/-- The identifiers of the finished spans that are no leaves. -/
def branchIds (l : List FinishedSpan) : List SpanId := (l.filter (!·.leaf)).map (·.record.id)

theorem branchIds_append (l l' : List FinishedSpan) :
    branchIds (l ++ l') = branchIds l ++ branchIds l' := by
  simp [branchIds]

theorem branchIds_perm (h : l.Perm l') : (branchIds l).Perm (branchIds l') :=
  (h.filter _).map _

theorem branchIds_of_leaves (h : ∀ s ∈ l, s.leaf = true) : branchIds l = [] := by
  have hnone : l.filter (!·.leaf) = [] := List.filter_eq_nil_iff.mpr fun s hs => by simp [h s hs]
  rw [branchIds, hnone, List.map_nil]

/-- Among leaves a finished span that joins them is the only one that is no leaf, if it is none. -/
theorem Joins.branchIds_perm (h : Joins f l l') (hl : ∀ s ∈ l, s.leaf = true) :
    (branchIds l').Perm (branchIds [f]) := by
  cases h with
  | alone hperm =>
    refine (FinishedSpan.branchIds_perm hperm).trans ?_
    rw [← List.singleton_append, branchIds_append, branchIds_of_leaves hl, List.append_nil]
  | merged s rest strategy he hbefore hafter =>
    have hrest : ∀ g ∈ s :: rest, g.leaf = true := fun g hg => hl g (hbefore.mem_iff.mpr hg)
    have hmerged : ∀ g ∈ s.absorb f strategy :: rest, g.leaf = true := by
      intro g hg
      rcases List.mem_cons.mp hg with rfl | hg
      · exact hrest s List.mem_cons_self
      · exact hrest g (List.mem_cons_of_mem _ hg)
    have hf : ∀ g ∈ [f], g.leaf = true := by simpa using leaf_of_eligible he
    refine (FinishedSpan.branchIds_perm hafter).trans ?_
    rw [branchIds_of_leaves hmerged, branchIds_of_leaves hf]

end FinishedSpan

namespace Transaction

variable {t t' : Transaction} {J K : Journal} {o : Span.Outline} {f : FinishedSpan}

/-- What the record of a finished span refers to, and which span it came from. -/
structure Refers (t : Transaction) (f : FinishedSpan) : Prop where
  transactionId : f.record.transactionId = t.id
  traceId : f.record.traceId = t.traceId
  /-- The parent is the transaction, or a span beneath which spans are recorded. -/
  parentId : f.record.parentId = t.id ∨
    ∃ p ∈ t.outlines, p.leaf = false ∧ p.id = f.record.parentId
  source : ∃ o ∈ t.outlines, o.id = f.record.id ∧ o.leaf = f.leaf
  plain : f.leaf = false → f.composite = none

theorem Refers.mono (h : t.Refers f) (hid : t'.id = t.id) (htrace : t'.traceId = t.traceId)
    (hsub : t.outlines ⊆ t'.outlines) : t'.Refers f where
  transactionId := h.transactionId.trans hid.symm
  traceId := h.traceId.trans htrace.symm
  parentId := by
    rcases h.parentId with hp | ⟨p, hp, hleaf, heq⟩
    · exact .inl (hp.trans hid.symm)
    · exact .inr ⟨p, hsub hp, hleaf, heq⟩
  source := by
    obtain ⟨o, ho, heq⟩ := h.source
    exact ⟨o, hsub ho, heq⟩
  plain := h.plain

theorem Refers.exists_parent (h : t.Refers f) :
    f.record.parentId = t.id ∨ ∃ p ∈ t.spans, p.leaf = false ∧ p.id = f.record.parentId := by
  rcases h.parentId with hp | ⟨o, ho, hleaf, hid⟩
  · exact .inl hp
  · obtain ⟨p, hp, rfl⟩ := List.mem_map.mp ho
    exact .inr ⟨p, Array.mem_toList_iff.mp hp, hleaf, hid⟩

/-- A span that ends beneath one that may enclose it refers to that. -/
theorem Finishes.refers (h : t.Finishes o f) (ho : o ∈ t.outlines) (hn : t.Nested) :
    t.Refers f where
  transactionId := h.transactionId
  traceId := h.traceId
  parentId := by
    rw [h.parentId, enclosingId]
    cases hp : o.parent with
    | none => exact .inl rfl
    | some p =>
      obtain ⟨q, hq, hleaf⟩ := hn o ho p hp
      refine .inr ⟨q, List.mem_of_getElem? hq, hleaf, ?_⟩
      simp [hq]
  source := ⟨o, ho, h.id.symm, h.leaf.symm⟩
  plain := fun _ => h.plain

/-- Merging leaves alone what a record refers to. -/
theorem Refers.absorb (h : t.Refers f) (hleaf : f.leaf = true) (g : FinishedSpan)
    (strategy : CompressionStrategy) : t.Refers (f.absorb g strategy) where
  transactionId := h.transactionId
  traceId := h.traceId
  parentId := h.parentId
  source := h.source
  plain := fun hbranch => by cases hleaf.symm.trans hbranch

/-- The identifiers of the spans that have ended and are no leaves. -/
def endedBranchIds (t : Transaction) : List SpanId :=
  (t.endedOutlines.filter (!·.leaf)).map (·.id)

theorem map_id_outlines (t : Transaction) :
    t.outlines.map (·.id) = t.spans.toList.map (·.id) := by
  simp [outlines, Span.outline, Function.comp_def]

theorem id_mem_of_mem_outlines (ho : o ∈ t.outlines) : o.id ∈ t.spans.toList.map (·.id) := by
  rw [← map_id_outlines]
  exact List.mem_map_of_mem ho

/-- What the records of a transaction refer to, and which spans they are of. -/
structure Referring (t : Transaction) (J : Journal) : Prop where
  nested : t.Nested
  eligible : t.HoldsEligible
  refers : ∀ f ∈ J.map (·.span) ++ t.held, t.Refers f
  branches : (FinishedSpan.branchIds (J.map (·.span))).Perm t.endedBranchIds
  reported : ∀ r ∈ J, r.span.leaf = false → r.reported = true

theorem referring_of_isNew (h : t.IsNew) : t.Referring [] where
  nested := by simp [Nested, outlines, h.spans]
  eligible := by simp [HoldsEligible, held, h.spans, h.slot]
  refers := by simp [held, h.spans, h.slot]
  branches := by simp [FinishedSpan.branchIds, endedBranchIds, endedOutlines, h.spans]
  reported := by simp

theorem Effect.outlines_subset (h : Effect t K t') : t.outlines ⊆ t'.outlines := by
  cases h with
  | quiet hsame => rw [hsame.outlines]; exact List.Subset.refl _
  | opened o houtlines => rw [houtlines]; exact List.subset_append_left _ _
  | ended o f _ houtlines => rw [houtlines]; exact List.Subset.refl _

theorem HoldsEligible.leaf (h : t.HoldsEligible) : ∀ f ∈ t.held, f.leaf = true :=
  fun f hf => FinishedSpan.leaf_of_eligible (h f hf)

/-- Spans that are no leaves are released when they end. -/
theorem Effect.branchIds_perm (h : Effect t K t') (he : t.HoldsEligible) :
    (FinishedSpan.branchIds (K.map (·.span)) ++ t.endedBranchIds).Perm t'.endedBranchIds := by
  have he' := (h.holdsEligible he).leaf
  cases h with
  | quiet hsame _ hheld =>
    have hK : ∀ f ∈ K.map (·.span), f.leaf = true := fun f hf =>
      he.leaf f (hheld.mem_iff.mpr (List.mem_append_left _ hf))
    rw [FinishedSpan.branchIds_of_leaves hK, List.nil_append, endedBranchIds, ← hsame.ended]
    exact .refl _
  | opened o _ _ hended _ _ hJ =>
    rw [hJ, endedBranchIds, ← hended]
    exact .refl _
  | ended o f _ _ _ hended _ hfinishes hjoins =>
    have hK := hjoins.branchIds_perm he.leaf
    rw [FinishedSpan.branchIds_append, FinishedSpan.branchIds_of_leaves he', List.append_nil] at hK
    have hf : FinishedSpan.branchIds [f] = ([o].filter (!·.leaf)).map (·.id) := by
      cases hleaf : o.leaf <;>
        simp [FinishedSpan.branchIds, hfinishes.leaf, hfinishes.id, hleaf]
    rw [hf] at hK
    refine (hK.append_right _).trans (.trans ?_ ((hended.symm.filter _).map _))
    cases hleaf : o.leaf <;> simp [endedBranchIds, hleaf]

/-- **The invariant of references.** -/
theorem isInvariant_referring : IsInvariant Referring where
  new := referring_of_isNew
  step := by
    intro t t' J K hstep hov h
    have heffect := hstep.effect h.nested hov
    have htallied := hstep.tallied hov
    have hheld : ∀ f ∈ t.held, t.Refers f := fun f hf => h.refers f (List.mem_append_right _ hf)
    have hmono : ∀ f, t.Refers f → t'.Refers f := fun f hf =>
      hf.mono htallied.id htallied.traceId heffect.outlines_subset
    have hrefers : ∀ f ∈ K.map (·.span) ++ t'.held, t.Refers f :=
      heffect.forall (fun o f ho hf => hf.refers ho h.nested)
        (fun f hf g strategy hrefers => hrefers.absorb (h.eligible.leaf f hf) g strategy) hheld
    refine
      { nested := heffect.nested h.nested
        eligible := heffect.holdsEligible h.eligible
        refers := fun f hf => ?_
        branches := ?_
        reported := fun r hr hleaf => ?_ }
    · rw [List.map_append, List.append_assoc, List.mem_append] at hf
      rcases hf with hf | hf
      · exact hmono f (h.refers f (List.mem_append_left _ hf))
      · exact hmono f (hrefers f hf)
    · rw [List.map_append, FinishedSpan.branchIds_append]
      refine .trans ?_ (heffect.branchIds_perm h.eligible)
      exact (h.branches.append_right _).trans List.perm_append_comm
    · rcases List.mem_append.mp hr with hr | hr
      · exact h.reported r hr hleaf
      · rw [hstep.reported_eq r hr]
        simp [isTooShort, FinishedSpan.discardable, hleaf]

/-- Whatever is released under the identifier of a span that is no leaf is none either, if
identifiers differ. -/
theorem Referring.leaf_eq_false (h : t.Referring J) (hids : (t.outlines.map (·.id)).Nodup)
    (ho : o ∈ t.outlines) (hleaf : o.leaf = false) {r : Release} (hr : r ∈ J)
    (hid : r.span.record.id = o.id) : r.span.leaf = false := by
  have hrefers := h.refers r.span (List.mem_append_left _ (List.mem_map_of_mem hr))
  obtain ⟨p, hp, hpid, hpleaf⟩ := hrefers.source
  obtain rfl := List.inj_on_of_nodup_map hids hp ho (hpid.trans hid)
  exact hpleaf.symm.trans hleaf

/-- A span that has ended and is no leaf is released once, if identifiers differ. -/
theorem Referring.releases_filter (h : t.Referring J) (hids : (t.outlines.map (·.id)).Nodup)
    (ho : o ∈ t.endedOutlines) (hleaf : o.leaf = false) :
    ∃ r, J.filter (·.span.record.id = o.id) = [r] := by
  have hmem : o ∈ t.outlines := (List.filter_sublist.map _).subset ho
  have hcount : (FinishedSpan.branchIds (J.map (·.span))).count o.id = 1 := by
    have hnodup : t.endedBranchIds.Nodup :=
      hids.sublist ((List.filter_sublist.trans (List.filter_sublist.map _)).map _)
    rw [h.branches.count_eq]
    refine List.count_eq_one_of_mem hnodup (List.mem_map_of_mem (List.mem_filter.mpr ⟨ho, ?_⟩))
    simp [hleaf]
  refine List.length_eq_one_iff.mp ?_
  rw [← hcount, ← List.countP_eq_length_filter, FinishedSpan.branchIds, List.count,
    List.countP_map, List.countP_filter, List.countP_map]
  refine List.countP_congr fun r hr => ?_
  have hbranch := h.leaf_eq_false hids hmem hleaf hr
  simpa using hbranch

/-- A span that has ended and is no leaf is reported once and by itself, if identifiers differ. -/
theorem Referring.records_filter (h : t.Referring J) (hids : (t.outlines.map (·.id)).Nodup)
    (ho : o ∈ t.endedOutlines) (hleaf : o.leaf = false) :
    ∃ r, (Journal.records J).filter (·.id = o.id) = [r] ∧ r.composite = none := by
  obtain ⟨r, hr⟩ := h.releases_filter hids ho hleaf
  have hrJ : r ∈ J ∧ r.span.record.id = o.id := by
    have hmem : r ∈ J.filter (·.span.record.id = o.id) := by
      rw [hr]
      exact List.mem_singleton_self r
    simpa using hmem
  have hbranch : r.span.leaf = false :=
    h.leaf_eq_false hids ((List.filter_sublist.map _).subset ho) hleaf hrJ.1 hrJ.2
  have hplain : r.span.composite = none :=
    (h.refers r.span (List.mem_append_left _ (List.mem_map_of_mem hrJ.1))).plain hbranch
  refine ⟨r.span.toRecord, ?_, by rw [FinishedSpan.toRecord, hplain]; rfl⟩
  calc (Journal.records J).filter (·.id = o.id)
      = ((J.filter (·.span.record.id = o.id)).filter (·.reported)).map (·.span.toRecord) := by
        rw [Journal.records, List.filter_map, List.filter_filter, List.filter_filter]
        simp only [Function.comp_def, Bool.and_comm]
        rfl
    _ = [r.span.toRecord] := by simp [hr, h.reported r hrJ.1 hbranch]

end Transaction

/-- Every record is that of a span of the transaction that reported it. -/
theorem History.Keeps.exists_refers {h : History} (hk : h.Keeps Transaction.Referring)
    {t : TransactionRef} {r : SpanRecord} (hr : r ∈ Journal.records (h.ledger.journal t)) :
    ∃ tx f, h.agent.transaction? t = some tx ∧ tx.Refers f ∧ r = f.toRecord := by
  obtain ⟨s, hs, rfl⟩ := List.mem_map.mp hr
  have hs := (List.mem_filter.mp hs).1
  cases htx : h.agent.transaction? t with
  | none =>
    rw [hk.unknown htx] at hs
    cases hs
  | some tx =>
    refine ⟨tx, s.span, rfl, (hk.known htx).refers s.span ?_, rfl⟩
    exact List.mem_append_left _ (List.mem_map_of_mem hs)

/-- The identifiers of all transactions. -/
def Agent.transactionIds (a : Agent) : List SpanId := a.transactions.toList.map (·.id)

/-- The identifiers of all spans of all transactions. -/
def Agent.spanIds (a : Agent) : List SpanId :=
  (a.transactions.toList.map fun tx => tx.spans.toList.map (·.id)).flatten

namespace Ledger

variable {L : Ledger} {r : SpanRecord}

/-- Every record was reported by some transaction. -/
theorem exists_mem_journal (hr : r ∈ records L) : ∃ t, r ∈ Journal.records (journal L t) := by
  simp only [records, Journal.records, List.mem_map, List.mem_filter] at hr
  obtain ⟨s, ⟨⟨⟨t, s⟩, hs, rfl⟩, hreported⟩, rfl⟩ := hr
  refine ⟨t, List.mem_map_of_mem (List.mem_filter.mpr ⟨?_, hreported⟩)⟩
  exact List.mem_map.mpr ⟨(t, s), List.mem_filter.mpr ⟨hs, by simp⟩, rfl⟩

/-- Records that only one transaction reports are found in its journal. -/
theorem records_filter {p : SpanRecord → Bool} {t : TransactionRef}
    (h : ∀ u, u ≠ t → ∀ r ∈ Journal.records (journal L u), p r = false) :
    (records L).filter p = (Journal.records (journal L t)).filter p := by
  induction L with
  | nil => rfl
  | cons e rest ih =>
    have happend : ∀ u, journal (e :: rest) u = journal [e] u ++ journal rest u :=
      fun u => journal_append [e] rest u
    have hrest := ih fun u hu r hr => h u hu r (by
      rw [happend, Journal.records_append]
      exact List.mem_append_right _ hr)
    rw [← List.singleton_append, records_append, List.filter_append, hrest, journal_append,
      Journal.records_append, List.filter_append]
    congr 1
    by_cases he : e.1 = t
    · simp [records, journal, he]
    · have hnone : (records [e]).filter p = [] := by
        refine List.filter_eq_nil_iff.mpr fun r hr => ?_
        have hr' : r ∈ Journal.records (journal (e :: rest) e.1) := by
          rw [happend, Journal.records_append]
          refine List.mem_append_left _ ?_
          simpa [records, journal] using hr
        simp [h e.1 he r hr']
      simp [hnone, journal, he]

end Ledger

namespace Agent

variable {a : Agent} {actions : List Action} {t u : TransactionRef} {tx ux : Transaction}

theorem nodup_outlines (hids : a.spanIds.Nodup) (htx : a.transaction? t = some tx) :
    (tx.outlines.map (·.id)).Nodup := by
  rw [Transaction.map_id_outlines]
  exact (List.nodup_flatten.mp hids).1 _
    (List.mem_map_of_mem (Array.mem_toList_iff.mpr (Array.mem_of_getElem? htx)))

/-- The records that a transaction reported are those that carry its identifier. -/
theorem records_filter_transactionId {h : History} (hk : h.Keeps Transaction.Referring)
    (hids : h.agent.transactionIds.Nodup) (htx : h.agent.transaction? t = some tx) :
    (Ledger.records h.ledger).filter (·.transactionId = tx.id) =
      Journal.records (h.ledger.journal t) := by
  have hothers : ∀ u, u ≠ t → ∀ r ∈ Journal.records (h.ledger.journal u),
      decide (r.transactionId = tx.id) = false := by
    intro u hu r hr
    obtain ⟨ux, f, hux, hf, rfl⟩ := hk.exists_refers hr
    refine decide_eq_false fun hid => hu ?_
    obtain ⟨ht, rfl⟩ := Array.getElem?_eq_some_iff.mp htx
    obtain ⟨hu', rfl⟩ := Array.getElem?_eq_some_iff.mp hux
    have hlt : u < h.agent.transactionIds.length := by simpa [transactionIds] using hu'
    have hlt' : t < h.agent.transactionIds.length := by simpa [transactionIds] using ht
    refine (@List.Nodup.getElem_inj_iff _ _ hids u hlt t hlt').mp ?_
    simpa [transactionIds] using hf.transactionId.symm.trans hid
  rw [Ledger.records_filter hothers]
  refine List.filter_eq_self.mpr fun r hr => ?_
  obtain ⟨tx', f, htx', hf, rfl⟩ := hk.exists_refers hr
  obtain rfl := Option.some.inj (htx'.symm.trans htx)
  exact decide_eq_true hf.transactionId

/-- Spans of different transactions have different identifiers. -/
theorem eq_of_id_eq (hids : a.spanIds.Nodup) (htx : a.transaction? t = some tx)
    (hux : a.transaction? u = some ux) {o p : Span.Outline} (ho : o ∈ tx.outlines)
    (hp : p ∈ ux.outlines) (hid : o.id = p.id) : t = u := by
  obtain ⟨ht, rfl⟩ := Array.getElem?_eq_some_iff.mp htx
  obtain ⟨hu, rfl⟩ := Array.getElem?_eq_some_iff.mp hux
  have ho := Transaction.id_mem_of_mem_outlines ho
  have hp := Transaction.id_mem_of_mem_outlines hp
  by_contra hne
  have hpairwise := List.pairwise_iff_getElem.mp (List.nodup_flatten.mp hids).2
  rcases Nat.lt_or_gt_of_ne hne with hlt | hlt
  · have hdisjoint := hpairwise t u (by simpa using ht) (by simpa using hu) hlt
    simp only [List.getElem_map, Array.getElem_toList] at hdisjoint
    exact hdisjoint ho (hid ▸ hp)
  · have hdisjoint := hpairwise u t (by simpa using hu) (by simpa using ht) hlt
    simp only [List.getElem_map, Array.getElem_toList] at hdisjoint
    exact hdisjoint hp (hid ▸ ho)

/-- **Every parent that is named is reported.** Let any operations happen to an agent that has not
begun a transaction yet, let no two spans have got the same identifier, and let no duration
overflow.

* Every record that was reported names its transaction, the trace of that, and as its parent the
  transaction or one of its spans that is no leaf.
* Once such a span has ended there is exactly one record of it, which is no composite.

A queue that keeps everything has just these records. -/
theorem run_keeps_references (hnone : a.transactions = #[])
    (hov : (a.run actions).agent.overflowed = false)
    (hids : (a.run actions).agent.spanIds.Nodup) :
    (∀ r ∈ Ledger.records (a.run actions).ledger, ∃ t tx,
      (a.run actions).agent.transaction? t = some tx ∧
      r ∈ Journal.records ((a.run actions).ledger.journal t) ∧
      r.transactionId = tx.id ∧ r.traceId = tx.traceId ∧
      (r.parentId = tx.id ∨ ∃ p ∈ tx.spans, p.leaf = false ∧ p.id = r.parentId)) ∧
    (∀ t tx, (a.run actions).agent.transaction? t = some tx →
      ∀ p ∈ tx.spans, p.leaf = false → p.ended = true →
      ∃ r, (Ledger.records (a.run actions).ledger).filter (·.id = p.id) = [r] ∧
        r.composite = none) ∧
    a.Queued (Ledger.records (a.run actions).ledger) (a.run actions).agent := by
  have hkeeps := run_keeps Transaction.isInvariant_referring hnone hov
  refine ⟨fun r hr => ?_, fun t tx htx p hp hleaf hended => ?_, run_queued hov⟩
  · obtain ⟨t, hrt⟩ := Ledger.exists_mem_journal hr
    obtain ⟨tx, f, htx, hf, rfl⟩ := hkeeps.exists_refers hrt
    exact ⟨t, tx, htx, hrt, hf.transactionId, hf.traceId, hf.exists_parent⟩
  · have hp := Array.mem_toList_iff.mpr hp
    have ho : p.outline ∈ tx.outlines := List.mem_map_of_mem hp
    have hothers : ∀ u, u ≠ t → ∀ r ∈ Journal.records ((a.run actions).ledger.journal u),
        decide (r.id = p.id) = false := by
      intro u hu r hr
      obtain ⟨ux, f, hux, hf, rfl⟩ := hkeeps.exists_refers hr
      obtain ⟨o, ho', hid, -⟩ := hf.source
      refine decide_eq_false fun hrp => hu ?_
      exact eq_of_id_eq hids hux htx ho' ho (hid.trans hrp)
    rw [Ledger.records_filter hothers]
    exact (hkeeps.known htx).records_filter (nodup_outlines hids htx)
      (List.mem_map_of_mem (List.mem_filter.mpr ⟨hp, hended⟩)) hleaf

/-- The calls name the span around them, which is reported whether or not they are. -/
theorem run_keeps_references_nestedCalls :
    ((inMemory.run nestedCalls).agent.transaction? 0).map
      (fun tx => (tx.id, (tx.spans.toList.filter (!·.leaf)).map fun p => (p.id, p.ended))) =
        some (.ofNat 1, [(.ofNat 2, true)]) ∧
    (Ledger.records (inMemory.run nestedCalls).ledger).map (·.parentId) = [.ofNat 2, .ofNat 1] ∧
    (inMemory.run nestedCalls).agent.overflowed = false ∧
    (inMemory.run nestedCalls).agent.spanIds.Nodup ∧
    ∀ tx, (inMemory.run nestedCalls).agent.transaction? 0 = some tx →
      ∀ p ∈ tx.spans, p.leaf = false → p.ended = true →
      ∃ r, (Ledger.records (inMemory.run nestedCalls).ledger).filter (·.id = p.id) = [r] ∧
        r.composite = none := by
  have hov : (inMemory.run nestedCalls).agent.overflowed = false := by decide +kernel
  have hids : (inMemory.run nestedCalls).agent.spanIds.Nodup := by decide +kernel
  refine ⟨by decide +kernel, by decide +kernel, hov, hids, fun tx htx => ?_⟩
  exact (run_keeps_references rfl hov hids).2.1 0 tx htx

end Agent

end Telemetry
