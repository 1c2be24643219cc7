import Mathlib.Data.List.Infix
import Telemetry.Proofs.Transaction.Step

/-!
# Admission over time

Whether a span is recorded is decided once, from what the transaction knows at that moment: whether
it has ended, how many spans it has admitted, and what encloses the span. All of that only grows.
Places keep their meaning, a transaction that has ended stays so, and no end of a span gives
anything back to the budget. So a decision can be compared with the later ones.

Nothing here depends on whether some duration overflowed.

## Main definitions

* `Transaction.reasons`: why spans were refused, by place.
* `Transaction.Grows`: what decides about spans has changed in one direction only.

## Main results

* `Transaction.admission_of_live`: the decision of a transaction that records.
* `Transaction.Step.grows`: every step lets a transaction grow.
-/

namespace Telemetry

namespace Transaction

variable {t t' : Transaction} {J : Journal} {e : Enclosing}

/-! ### The decision -/

/-- Why spans were refused, by the place of their stand-ins. -/
def reasons (t : Transaction) : List DropReason := t.standIns.toList.map (·.reason)

theorem admission_of_ended (h : t.ended = true) : t.admission e = .error .notRecording := by
  simp [admission, h]

theorem admission_of_not_sampled (h : t.sampled = false) :
    t.admission e = .error .notRecording := by
  simp [admission, h]

/-- What a transaction that records decides. -/
theorem admission_of_live (hsampled : t.sampled = true) (hlive : t.ended = false) :
    t.admission e = match e with
      | .standIn reason => .error reason
      | .leaf => .error .leafParent
      | .span i => if t.hasBudget then .ok (some i) else .error .maxSpansExceeded
      | .transaction => if t.hasBudget then .ok none else .error .maxSpansExceeded := by
  have hrecords : ¬ (!t.sampled || t.ended) = true := by simp [hsampled, hlive]
  exact if_neg hrecords

/-- Unless it says that nothing is recorded, the decision is that of a transaction that records. -/
theorem live_of_admission (h : t.admission e ≠ .error .notRecording) :
    t.sampled = true ∧ t.ended = false := by
  constructor
  · by_contra hsampled
    exact h (admission_of_not_sampled (eq_false_of_ne_true hsampled))
  · by_contra hended
    exact h (admission_of_ended (eq_true_of_ne_false hended))

/-- What is admitted is paid for from the budget, and is enclosed by the transaction or by a
span. -/
theorem admitted {p : Option Nat} (h : t.admission e = .ok p) :
    t.hasBudget = true ∧ (e = .transaction ∨ ∃ i, e = .span i) := by
  obtain ⟨hsampled, hlive⟩ := live_of_admission (t := t) (e := e) (by rw [h]; simp)
  rw [admission_of_live hsampled hlive] at h
  cases e <;> dsimp only at h
  case standIn reason => cases h
  case leaf => cases h
  case span i =>
    split at h <;> cases h
    exact ⟨‹_›, .inr ⟨i, rfl⟩⟩
  case transaction =>
    split at h <;> cases h
    exact ⟨‹_›, .inl rfl⟩

/-- What is refused for the budget finds it used up, or is enclosed by what was refused for it. -/
theorem refused_for_budget (h : t.admission e = .error .maxSpansExceeded) :
    t.hasBudget = false ∨ e = .standIn .maxSpansExceeded := by
  obtain ⟨hsampled, hlive⟩ := live_of_admission (t := t) (e := e) (by rw [h]; simp)
  rw [admission_of_live hsampled hlive] at h
  cases e <;> dsimp only at h
  case standIn reason => cases h; exact .inr rfl
  case leaf => cases h
  all_goals
    split at h
    · cases h
    · rename_i hnone
      exact .inl (eq_false_of_ne_true hnone)

/-! ### Growth -/

/-- Places in a list that grows keep their meaning. -/
theorem getElem?_mono {α : Type} {l l' : List α} {i : Nat} {x : α} (h : l <+: l')
    (hi : l[i]? = some x) : l'[i]? = some x := by
  obtain ⟨hlt, rfl⟩ := List.getElem?_eq_some_iff.mp hi
  exact List.prefix_iff_getElem?.mp h i hlt

/-- What decides about spans changes in one direction only. -/
structure Grows (t t' : Transaction) : Prop where
  limits : t'.limits = t.limits
  sampled : t'.sampled = t.sampled
  outlines : t.outlines <+: t'.outlines
  reasons : t.reasons <+: t'.reasons
  created : t.created ≤ t'.created
  /-- The budget is never overdrawn. -/
  budget : 0 < t.limits.maxSpans → t.created ≤ t.limits.maxSpans →
    t'.created ≤ t.limits.maxSpans
  ended : t.ended = true → t'.ended = true

/-- Nothing that decides about spans is touched. -/
theorem grows_of_eq (hlimits : t'.limits = t.limits) (hsampled : t'.sampled = t.sampled)
    (houtlines : t'.outlines = t.outlines) (hreasons : t'.reasons = t.reasons)
    (hcreated : t'.created = t.created) (hended : t.ended = true → t'.ended = true) :
    Grows t t' where
  limits := hlimits
  sampled := hsampled
  outlines := houtlines ▸ List.prefix_rfl
  reasons := hreasons ▸ List.prefix_rfl
  created := hcreated.ge
  budget := fun _ h => hcreated ▸ h
  ended := hended

theorem Grows.refl (t : Transaction) : Grows t t := grows_of_eq rfl rfl rfl rfl rfl fun h => h

theorem Grows.trans {t'' : Transaction} (h : Grows t t') (h' : Grows t' t'') : Grows t t'' where
  limits := h'.limits.trans h.limits
  sampled := h'.sampled.trans h.sampled
  outlines := h.outlines.trans h'.outlines
  reasons := h.reasons.trans h'.reasons
  created := h.created.trans h'.created
  budget := fun hpos hle => h.limits ▸ h'.budget (h.limits ▸ hpos) (h.limits ▸ h.budget hpos hle)
  ended := fun hended => h'.ended (h.ended hended)

/-- A span stays where it is. -/
theorem Grows.exists_span (h : Grows t t') {i : Nat} {s : Span} (hs : t.spans[i]? = some s) :
    ∃ s', t'.spans[i]? = some s' ∧ s'.outline = s.outline :=
  getElem?_outlines_eq_some_iff.mp <|
    getElem?_mono h.outlines (getElem?_outlines_eq_some_iff.mpr ⟨s, hs, rfl⟩)

/-- What was used up stays so. -/
theorem Grows.hasBudget_eq_false (h : Grows t t') (hnone : t.hasBudget = false) :
    t'.hasBudget = false := by
  have hcreated := h.created
  simp only [hasBudget, Bool.or_eq_false_iff, decide_eq_false_iff_not, h.limits] at hnone ⊢
  exact ⟨hnone.1, by omega⟩

/-- Reporting touches nothing but the counters of what was sent and the statistics. -/
theorem reportAll_frame (t : Transaction) (l : List FinishedSpan) :
    ∃ started dropped stats overflowed,
      (t.reportAll l).1 = { t with started, dropped, stats, overflowed } := by
  induction l generalizing t with
  | nil => exact ⟨_, _, _, _, rfl⟩
  | cons s rest ih =>
    have hfirst : ∃ started dropped stats overflowed,
        (t.report s).1 = { t with started, dropped, stats, overflowed } := by
      unfold report
      split
      · exact ⟨_, _, _, _, rfl⟩
      split
      · unfold discard
        dsimp only
        split <;> exact ⟨_, _, _, _, rfl⟩
      · exact ⟨_, _, _, _, rfl⟩
    obtain ⟨_, _, _, _, hfirst⟩ := hfirst
    obtain ⟨started, dropped, stats, overflowed, hrest⟩ := ih (t.report s).1
    refine ⟨started, dropped, stats, overflowed, hrest.trans ?_⟩
    rw [hfirst]

theorem grows_reportAll (t : Transaction) (l : List FinishedSpan) :
    Grows t (t.reportAll l).1 := by
  obtain ⟨_, _, _, _, heq⟩ := t.reportAll_frame l
  rw [heq]
  exact grows_of_eq rfl rfl rfl rfl rfl fun h => h

theorem grows_offer (t : Transaction) (parent : Option Nat) (f : FinishedSpan) :
    Grows t (t.offer parent f).1 := by
  have houtlines := (t.sameSpans_offer parent f).outlines
  obtain ⟨_, _, _, heq⟩ := t.offer_eq parent f
  rw [heq] at houtlines ⊢
  exact grows_of_eq rfl rfl houtlines rfl rfl fun h => h

theorem grows_modifySpan {g : Span → Span} (h : ∀ s, (g s).outline = s.outline) (i : Nat) :
    Grows t (t.modifySpan i g) := by
  refine grows_of_eq rfl rfl ?_ rfl rfl fun h => h
  simp only [outlines, modifySpan, Array.toList_modify]
  exact map_modify_of_eq h _ _

theorem grows_endSpan (t : Transaction) (i : Nat) (default : Outcome) (now : Instant)
    (frames : List Frame) : Grows t (t.endSpan i default now frames).1 := by
  cases hlive : t.liveSpan? i with
  | none =>
    simp only [endSpan, hlive]
    exact .refl t
  | some sd =>
    rw [endSpan_of_live hlive]
    have hclosed : Grows t (t.closeSpan i) := grows_modifySpan (fun _ => by rfl) i
    exact ((hclosed.trans (grows_reportAll _ _)).trans (grows_offer _ _ _)).trans
      (grows_reportAll _ _)

theorem grows_finish (t : Transaction) (result name : Option String) (now : Instant) :
    Grows t (t.finish result name now).1 := by
  cases hended : t.ended with
  | true =>
    simp only [finish, hended, if_true]
    exact .refl t
  | false =>
    rw [finish_of_not_ended hended]
    have hclosed : Grows t (t.closeAtEnd result name) :=
      grows_of_eq rfl rfl rfl rfl rfl fun _ => rfl
    refine (hclosed.trans (grows_reportAll _ t.buffer.slot.toList)).trans ?_
    obtain ⟨details, heq⟩ := forgetContext_eq
      ((t.closeAtEnd result name).reportAll t.buffer.slot.toList).1
    dsimp only
    rw [heq]
    exact grows_of_eq rfl rfl rfl rfl rfl fun h => h

theorem ended_finish (t : Transaction) (result name : Option String) (now : Instant) :
    (t.finish result name now).1.ended = true := by
  cases hended : t.ended with
  | true => simp [finish, hended]
  | false =>
    rw [finish_of_not_ended hended]
    obtain ⟨details, heq⟩ := forgetContext_eq
      ((t.closeAtEnd result name).reportAll t.buffer.slot.toList).1
    dsimp only
    rw [heq]
    obtain ⟨_, _, _, _, hreport⟩ := (t.closeAtEnd result name).reportAll_frame
      t.buffer.slot.toList
    rw [hreport]
    rfl

theorem grows_openSpan {p : Option Nat} (b : SpanBuilder) (id : SpanId) (now : Instant)
    (h : t.hasBudget = true) : Grows t (t.openSpan b p id now) where
  limits := rfl
  sampled := rfl
  outlines := by simp [Transaction.outlines, openSpan]
  reasons := List.prefix_rfl
  created := Nat.le_succ _
  budget := by
    intro hpos _
    simp only [hasBudget, Bool.or_eq_true, decide_eq_true_eq] at h
    simp only [openSpan]
    omega
  ended := fun h => h

theorem grows_openStandIn (b : SpanBuilder) (reason : DropReason) (now : Instant) :
    Grows t (t.openStandIn b reason now) where
  limits := rfl
  sampled := rfl
  outlines := List.prefix_rfl
  reasons := by simp [Transaction.reasons, openStandIn]
  created := le_rfl
  budget := fun _ h => h
  ended := fun h => h

theorem grows_modifyStandIn {g : StandIn → StandIn} (h : ∀ s, (g s).reason = s.reason) (i : Nat) :
    Grows t (t.modifyStandIn i g) := by
  refine grows_of_eq rfl rfl rfl ?_ rfl fun h => h
  simp only [reasons, modifyStandIn, Array.toList_modify]
  exact map_modify_of_eq h _ _

/-- **Every step lets a transaction grow.** -/
theorem Step.grows (h : Step t J t') : Grows t t' := by
  cases h with
  | idle => exact .refl t
  | openSpan e b parent id now hadmitted => exact grows_openSpan b id now (admitted hadmitted).1
  | openStandIn e b reason now => exact grows_openStandIn b reason now
  | revise g =>
    unfold Transaction.revise
    split
    · exact .refl t
    · exact grows_of_eq rfl rfl rfl rfl rfl fun h => h
  | reviseSpan i g => exact grows_modifySpan (fun _ => by rfl) i
  | reviseStandIn i outcome => exact grows_modifyStandIn (fun _ => by rfl) i
  | withCaller => exact grows_of_eq rfl rfl rfl rfl rfl fun h => h
  | endStandIn i default now =>
    rcases t.endStandIn_eq i default now with heq | ⟨stats, overflowed, heq⟩ <;> rw [heq]
    · exact .refl t
    · have hended : Grows t (t.modifyStandIn i ({ · with ended := true })) :=
        grows_modifyStandIn (fun _ => by rfl) i
      exact hended.trans (grows_of_eq rfl rfl rfl rfl rfl fun h => h)
  | endSpan i default now frames => exact t.grows_endSpan i default now frames
  | finish result name now => exact t.grows_finish result name now

end Transaction

end Telemetry
