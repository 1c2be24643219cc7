import Telemetry.Proofs.Transaction.Admission

/-!
# Transactions that report every span at once

Where compression is switched off and no call is too short, the buffers of a transaction never hold
anything: a span that ends passes through and is reported there and then. What is left of the many
operations on a transaction is then that a span is opened, or a stand-in, and that either ends.

Reports stop once some duration has overflowed. Only the statistics of dropped spans can overflow
here, so nothing does as long as no span is refused for the budget.

## Main definitions

* `Transaction.Direct`: the transaction records, and holds nothing back.
* `Transaction.Extends`: what was opened before is as it was.

## Main results

* `Transaction.Direct.endSpan_cases`: a span that ends is reported.
* `Transaction.Direct.finish`: so is the transaction.
-/

namespace Telemetry

namespace Transaction

variable {t t' t'' : Transaction} {i : Nat} {parent : Option Nat} {s : Span} {d : SpanDetails}
  {f : FinishedSpan} {default : Outcome} {now : Instant} {frames : List Frame}

/-! ### What was opened before -/

/-- What was opened before is as it was, and what a transaction begins with. -/
structure Extends (t t' : Transaction) : Prop where
  id : t'.id = t.id
  traceParent : t'.traceParent = t.traceParent
  limits : t'.limits = t.limits
  spans : t.spans.toList <+: t'.spans.toList
  standIns : t.standIns.toList <+: t'.standIns.toList

namespace Extends

theorem refl (t : Transaction) : Extends t t := ⟨rfl, rfl, rfl, List.prefix_rfl, List.prefix_rfl⟩

theorem trans (h : Extends t t') (h' : Extends t' t'') : Extends t t'' where
  id := h'.id.trans h.id
  traceParent := h'.traceParent.trans h.traceParent
  limits := h'.limits.trans h.limits
  spans := h.spans.trans h'.spans
  standIns := h.standIns.trans h'.standIns

theorem span (h : Extends t t') (hs : t.spans[i]? = some s) : t'.spans[i]? = some s := by
  rw [← Array.getElem?_toList] at hs ⊢
  exact getElem?_mono h.spans hs

theorem standIn {r : StandIn} (h : Extends t t') (hr : t.standIns[i]? = some r) :
    t'.standIns[i]? = some r := by
  rw [← Array.getElem?_toList] at hr ⊢
  exact getElem?_mono h.standIns hr

end Extends

theorem extends_openSpan (t : Transaction) (b : SpanBuilder) (parent : Option Nat) (id : SpanId)
    (now : Instant) : Extends t (t.openSpan b parent id now) :=
  ⟨rfl, rfl, rfl, by simp [openSpan], List.prefix_rfl⟩

theorem extends_openStandIn (t : Transaction) (b : SpanBuilder) (reason : DropReason)
    (now : Instant) : Extends t (t.openStandIn b reason now) :=
  ⟨rfl, rfl, rfl, List.prefix_rfl, by simp [openStandIn]⟩

/-- The span that was opened last. -/
theorem exists_opened (t : Transaction) (b : SpanBuilder) (parent : Option Nat) (id : SpanId)
    (now : Instant) :
    ∃ s, (t.openSpan b parent id now).spans[t.spans.size]? = some s ∧ s.id = id ∧
      s.parent = parent ∧ s.leaf = b.leaf ∧ s.details = some b.details :=
  ⟨_, Array.getElem?_push_size, rfl, rfl, rfl, rfl⟩

theorem standIn_opened (t : Transaction) (b : SpanBuilder) (reason : DropReason) (now : Instant) :
    (t.openStandIn b reason now).standIns[t.standIns.size]? = some (b.standIn reason now) :=
  Array.getElem?_push_size

/-- A change right behind what was there before. -/
theorem prefix_modify_length {α : Type} {l l' : List α} {x : α} (h : l ++ [x] <+: l')
    (g : α → α) : l <+: l'.modify l.length g := by
  have hlt : l.length < l'.length := by
    have hle := h.length_le
    rwa [List.length_append, List.length_singleton] at hle
  have htake : l'.take l.length = l :=
    (List.prefix_iff_eq_take.mp ((List.prefix_append l [x]).trans h)).symm
  rw [List.modify_eq_take_cons_drop hlt, htake]
  exact List.prefix_append _ _

/-- The last span that was opened is closed again, whatever was opened since. -/
theorem Extends.closeSpan {b : SpanBuilder} {id : SpanId}
    (h : Extends (t.openSpan b parent id now) t') : Extends t (t'.closeSpan t.spans.size) where
  id := h.id
  traceParent := h.traceParent
  limits := h.limits
  spans := by
    have hspans := h.spans
    simp only [openSpan, Array.toList_push] at hspans
    simp only [Transaction.closeSpan, modifySpan, Array.toList_modify, ← Array.length_toList]
    exact prefix_modify_length hspans _
  standIns := h.standIns

theorem Extends.modifyStandIn {b : SpanBuilder} {reason : DropReason}
    (h : Extends (t.openStandIn b reason now) t') (g : StandIn → StandIn) :
    Extends t (t'.modifyStandIn t.standIns.size g) where
  id := h.id
  traceParent := h.traceParent
  limits := h.limits
  spans := h.spans
  standIns := by
    have hstandIns := h.standIns
    simp only [openStandIn, Array.toList_push] at hstandIns
    simp only [Transaction.modifyStandIn, Array.toList_modify, ← Array.length_toList]
    exact prefix_modify_length hstandIns _

/-! ### Nothing is held -/

/-- The transaction records, and reports every span when it ends. -/
structure Direct (t : Transaction) : Prop where
  sampled : t.sampled = true
  live : t.ended = false
  compression : t.limits.compression.enabled = false
  exitSpanMin : t.limits.exitSpanMin = 0
  slots : ∀ parent, (t.bufferOf parent).slot = none

theorem bufferOf_of_span (hs : t.spans[i]? = some s) : t.bufferOf (some i) = s.buffer := by
  simp [bufferOf, hs]

namespace Direct

/-- Nothing is too short where no duration is. -/
theorem report (h : t.Direct) (f : FinishedSpan) : t.report f =
    if t.overflowed then (t, []) else ({ t with started := t.started + 1 }, [f.toRecord]) := by
  have hshort : t.isTooShort f = false := by
    simp only [isTooShort, h.exitSpanMin, Bool.and_eq_false_iff, decide_eq_false_iff_not]
    exact .inr (Nat.not_lt_zero _)
  simp only [Transaction.report, hshort, Bool.false_eq_true, if_false]

/-- A span that is offered passes through. -/
theorem offer (h : t.Direct) (parent : Option Nat) (f : FinishedSpan) :
    t.offer parent f = (t, [f]) := by
  have hpass := CompressionBuffer.offer_of_passing (h.slots parent) (.inl h.compression) f
  have hoverflows : (t.bufferOf parent).offerOverflows t.limits.compression f = false := by
    simp [CompressionBuffer.offerOverflows, h.compression]
  have hsame : t.setBuffer (t.bufferOf parent) parent = t := by
    cases parent with
    | none => rfl
    | some i =>
      have hspans : t.spans.modify i ({ · with buffer := t.bufferOf (some i) }) = t.spans := by
        refine Array.ext_getElem? fun j => ?_
        rw [Array.getElem?_modify]
        split
        · subst i
          cases hs : t.spans[j]? with
          | none => rfl
          | some s => rw [bufferOf_of_span hs]; rfl
        · rfl
      simp only [setBuffer, modifySpan, hspans]
  simp only [Transaction.offer, hpass, hoverflows, hsame, Bool.or_false]

theorem closeSpan (h : t.Direct) (i : Nat) : (t.closeSpan i).Direct where
  sampled := h.sampled
  live := h.live
  compression := h.compression
  exitSpanMin := h.exitSpanMin
  slots
    | none => h.slots none
    | some j => by
      have hj := h.slots (some j)
      simp only [bufferOf, Transaction.closeSpan, modifySpan, Array.getElem?_modify] at hj ⊢
      split
      · cases t.spans[j]? <;> rfl
      · exact hj

theorem openSpan (h : t.Direct) (b : SpanBuilder) (parent : Option Nat) (id : SpanId)
    (now : Instant) : (t.openSpan b parent id now).Direct where
  sampled := h.sampled
  live := h.live
  compression := h.compression
  exitSpanMin := h.exitSpanMin
  slots
    | none => h.slots none
    | some j => by
      have hj := h.slots (some j)
      simp only [bufferOf, Transaction.openSpan, Array.getElem?_push] at hj ⊢
      split
      · rfl
      · exact hj

theorem openStandIn (h : t.Direct) (b : SpanBuilder) (reason : DropReason) (now : Instant) :
    (t.openStandIn b reason now).Direct :=
  ⟨h.sampled, h.live, h.compression, h.exitSpanMin, h.slots⟩

/-- A span that ends is reported, unless some duration has overflowed. -/
theorem endSpan_cases (h : t.Direct) (hlive : t.liveSpan? i = some (s, d)) (default : Outcome)
    (now : Instant) (frames : List Frame) :
    (t.overflowed = true ∧ t.endSpan i default now frames = (t.closeSpan i, [])) ∨
    (t.overflowed = false ∧ t.endSpan i default now frames =
      ({ t.closeSpan i with started := t.started + 1 },
        [(t.finished s d default now frames).toRecord])) := by
  have hslot : s.buffer.slot = none := by
    rw [← bufferOf_of_span (liveSpan?_eq_some_iff.mp hlive).1]
    exact h.slots (some i)
  have heq : t.endSpan i default now frames =
      (t.closeSpan i).report (t.finished s d default now frames) := by
    rw [endSpan_of_live hlive, hslot]
    simp only [Option.toList_none, reportAll, (h.closeSpan i).offer, List.append_nil,
      List.nil_append]
  rw [heq, (h.closeSpan i).report]
  cases hov : t.overflowed with
  | true => exact .inl ⟨rfl, if_pos hov⟩
  | false => exact .inr ⟨rfl, if_neg (by simpa [Transaction.closeSpan, modifySpan] using hov)⟩

/-- The end of a span shows in it alone, apart from how many spans were reported. -/
theorem endSpan (h : t.Direct) (hlive : t.liveSpan? i = some (s, d)) (default : Outcome)
    (now : Instant) (frames : List Frame) :
    let ended := (t.endSpan i default now frames).1
    ended.Direct ∧ (t.closeSpan i).Extends ended ∧ ended.created = t.created ∧
      ended.dropped = t.dropped := by
  have hclosed := h.closeSpan i
  rcases h.endSpan_cases hlive default now frames with ⟨-, heq⟩ | ⟨-, heq⟩ <;> rw [heq]
  · exact ⟨hclosed, .refl _, rfl, rfl⟩
  · exact ⟨⟨hclosed.sampled, hclosed.live, hclosed.compression, hclosed.exitSpanMin,
      hclosed.slots⟩, ⟨rfl, rfl, rfl, List.prefix_rfl, List.prefix_rfl⟩, rfl, rfl⟩

/-- Ending a stand-in touches nothing but it and the statistics. -/
theorem endStandIn (h : t.Direct) (i : Nat) (default : Outcome) (now : Instant) :
    (t.endStandIn i default now).Direct := by
  rcases t.endStandIn_eq i default now with heq | ⟨stats, overflowed, heq⟩ <;> rw [heq]
  · exact h
  · exact ⟨h.sampled, h.live, h.compression, h.exitSpanMin, h.slots⟩

/-- The transaction is reported when it ends, with what it has counted. -/
theorem finish (h : t.Direct) (result name : Option String) (now : Instant)
    (hov : t.overflowed = false) :
    ∃ r : TransactionRecord, (t.finish result name now).2 = [.transaction r] ∧ r.id = t.id ∧
      r.spanCount = t.spanCount := by
  have hslot : t.buffer.slot = none := h.slots none
  rw [finish_of_not_ended h.live, hslot]
  simp only [Option.toList_none, reportAll, List.map_nil, List.nil_append,
    overflowed_forgetContext]
  rw [if_neg (by simpa [closeAtEnd] using hov)]
  exact ⟨_, rfl, rfl, rfl⟩

end Direct

/-- The end of the last stand-in that was opened shows in it alone, apart from the statistics. -/
theorem Extends.endStandIn {b : SpanBuilder} {reason : DropReason}
    (h : Extends (t.openStandIn b reason now) t') (default : Outcome) (later : Instant) :
    Extends t (t'.endStandIn t.standIns.size default later) := by
  rcases t'.endStandIn_eq t.standIns.size default later with heq | ⟨stats, overflowed, heq⟩ <;>
    rw [heq]
  · exact (t.extends_openStandIn b reason now).trans h
  · have hmodified := h.modifyStandIn ({ · with ended := true })
    exact ⟨hmodified.id, hmodified.traceParent, hmodified.limits, hmodified.spans,
      hmodified.standIns⟩

theorem counts_endStandIn (t : Transaction) (i : Nat) (default : Outcome) (now : Instant) :
    (t.endStandIn i default now).created = t.created ∧
      (t.endStandIn i default now).dropped = t.dropped := by
  rcases t.endStandIn_eq i default now with heq | ⟨stats, overflowed, heq⟩ <;> rw [heq] <;>
    exact ⟨rfl, rfl⟩

/-- What has no destination does not go into the statistics. -/
theorem overflowed_endStandIn {r : StandIn} (hr : t.standIns[i]? = some r)
    (hresource : r.resource = none) :
    (t.endStandIn i default now).overflowed = t.overflowed := by
  simp only [endStandIn, hr, hresource]
  split <;> rfl

end Transaction

end Telemetry
