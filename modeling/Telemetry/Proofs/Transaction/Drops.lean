import Telemetry.Proofs.Transaction.DropTable
import Telemetry.Proofs.Transaction.Recount

/-!
# Which dropped spans are counted under a destination

Two things come into the table of dropped spans. A stand-in for a span that was refused for the
budget comes into it when it ends for the first time, by itself. A finished span that is left out
comes into it when it leaves its buffer, a composite with all its members. Both only if they have a
destination.

Spans that are refused are counted as dropped long before their stand-ins end, and some stand-ins
never end. So what is in the table is compared with the stand-ins that have ended: it never counts
more than these and the spans that were left out.

## Main definitions

* `Release.drop?`, `Transaction.dropOfStandIn?`: the drop that comes into the table.
* `Transaction.RefusedOnly`: stand-ins with a destination were refused for the budget.
* `Transaction.Tracks`: what the drops of a step do to a transaction.
* `Transaction.Accounts`: the table is that of all drops until now.

## Main results

* `Transaction.Told.tracks`, `Transaction.tracks_endStandIn`: every step tracks its drops.
* `Transaction.Accounts.step`: the table, one step further.
-/

namespace Telemetry

/-! ### Drops -/

/-- The drop that a release comes to, if the span was left out and has a destination. -/
def Release.drop? (r : Release) : Option DroppedSpanStat :=
  if r.reported then none
  else r.span.resource.map fun resource =>
    ⟨resource, r.span.record.outcome, r.span.count, r.span.total⟩

namespace Journal

/-- The drops that releases come to. -/
def drops (J : Journal) : List DroppedSpanStat := J.filterMap (·.drop?)

@[simp] theorem drops_nil : drops [] = [] := rfl

@[simp] theorem drops_append (J K : Journal) : drops (J ++ K) = drops J ++ drops K := by
  simp [drops]

/-- What is left out without a destination is counted nowhere else. -/
theorem sum_count_drops_le (J : Journal) : ((drops J).map (·.count)).sum ≤ discarded J := by
  induction J with
  | nil => exact le_rfl
  | cons r rest ih =>
    rw [← List.singleton_append, drops_append, discarded_append, List.map_append, List.sum_append]
    refine Nat.add_le_add ?_ ih
    cases hreported : r.reported <;> cases hresource : r.span.resource <;>
      simp [drops, discarded, Release.drop?, hreported, hresource]

end Journal

namespace Transaction

variable {t t' : Transaction} {C : Chronicle} {J K : Journal} {D D' : List DroppedSpanStat}
  {i : Nat} {default : Outcome} {now : Instant} {frames : List Frame} {result name : Option String}

/-- The drop that comes of ending a stand-in: the first end of one that was refused for the budget
and has a destination. -/
def dropOfStandIn? (t : Transaction) (i : Nat) (default : Outcome) (now : Instant) :
    Option DroppedSpanStat :=
  t.standIns[i]?.bind fun s =>
    if s.ended || s.reason ≠ .maxSpansExceeded then none
    else s.resource.map fun resource =>
      ⟨resource, s.outcome.getD default, 1, s.duration.getD (Instant.since now s.start)⟩

/-! ### Statistics -/

/-- The statistics after some drops. -/
theorem stats_discard (s : FinishedSpan) :
    (t.discard s).stats = (Journal.drops [⟨s, false⟩]).foldl DroppedStats.add t.stats := by
  cases hresource : s.resource with
  | none => simp [discard, hresource, Journal.drops, Release.drop?]
  | some resource =>
    simp [discard, hresource, Journal.drops, Release.drop?, track, DroppedStats.add]

theorem stats_report (s : FinishedSpan) (hov : t.overflowed = false) :
    (t.report s).1.stats = (Journal.drops [t.release s]).foldl DroppedStats.add t.stats := by
  cases hshort : t.isTooShort s with
  | true => simp [report, hov, hshort, stats_discard, release]
  | false => simp [report, hov, hshort, release, Journal.drops, Release.drop?]

/-- What is left out comes into the table in the order in which it leaves the buffers. -/
theorem stats_reportAll (l : List FinishedSpan) (hov : (t.reportAll l).1.overflowed = false) :
    (t.reportAll l).1.stats =
      (Journal.drops (l.map t.release)).foldl DroppedStats.add t.stats := by
  induction l generalizing t with
  | nil => rfl
  | cons s rest ih =>
    obtain ⟨hrest, -⟩ := reportAll_eq (t := (t.report s).1) rest hov
    obtain ⟨ht, stats, hs⟩ := report_eq s hrest
    have hrelease : (t.report s).1.release = t.release := by rw [hs]; rfl
    have ih := ih (t := (t.report s).1) hov
    rw [hrelease, stats_report s ht, ← List.foldl_append, ← Journal.drops_append] at ih
    exact ih

@[simp] theorem stats_offer (t : Transaction) (parent : Option Nat) (f : FinishedSpan) :
    (t.offer parent f).1.stats = t.stats := by
  obtain ⟨buffer, spans, overflowed, heq⟩ := t.offer_eq parent f
  rw [heq]

theorem stats_endSpan (hov : (t.endSpan i default now frames).1.overflowed = false) :
    (t.endSpan i default now frames).1.stats =
      (Journal.drops ((t.leaving i default now frames).map t.release)).foldl DroppedStats.add
        t.stats := by
  cases hlive : t.liveSpan? i with
  | none => simp [endSpan, leaving, hlive]
  | some sd =>
    obtain ⟨s, d⟩ := sd
    rw [endSpan_of_live hlive] at hov ⊢
    obtain ⟨hoffer, -⟩ := reportAll_eq _ hov
    have hclosed := overflowed_of_offer hoffer
    obtain ⟨-, stats, hearly⟩ := reportAll_eq _ hclosed
    rw [stats_reportAll _ hov, stats_offer, stats_reportAll _ hclosed, ← List.foldl_append,
      ← Journal.drops_append, leaving, hlive, List.map_append, hearly, offer_tally, release_tally,
      release_offer, release_closeSpan]
    rfl

theorem stats_finish (hov : (t.finish result name now).1.overflowed = false) :
    (t.finish result name now).1.stats =
      (Journal.drops (t.leavingAtEnd.map t.release)).foldl DroppedStats.add t.stats := by
  cases hended : t.ended with
  | true => simp [finish, leavingAtEnd, hended]
  | false =>
    rw [finish_of_not_ended hended] at hov ⊢
    dsimp only at hov ⊢
    rw [overflowed_forgetContext] at hov
    obtain ⟨details, hforget⟩ :=
      forgetContext_eq ((t.closeAtEnd result name).reportAll t.buffer.slot.toList).1
    rw [hforget, leavingAtEnd, hended]
    exact stats_reportAll _ hov

/-! ### Stand-ins -/

/-- Stand-ins with a destination were refused for the budget. -/
def RefusedOnly (t : Transaction) : Prop :=
  ∀ s ∈ t.standIns, s.resource.isSome = true → s.reason = .maxSpansExceeded

/-- How many stand-ins have ended that were refused for the budget. -/
def endedRefusals (t : Transaction) : Nat :=
  t.standIns.toList.countP fun s => s.reason = .maxSpansExceeded && s.ended

theorem endedRefusals_le_refusals (t : Transaction) : t.endedRefusals ≤ t.refusals :=
  List.countP_mono_left fun _ _ h => (Bool.and_eq_true_iff.mp h).1

/-- What a step does to the stand-ins. -/
inductive StandInStep (t t' : Transaction) : Prop
  | same (h : t'.standIns = t.standIns)
  | opened (b : SpanBuilder) (reason : DropReason) (now : Instant)
      (h : t'.standIns = t.standIns.push (b.standIn reason now))
  | changed (i : Nat) (g : StandIn → StandIn) (hreason : ∀ s, (g s).reason = s.reason)
      (hresource : ∀ s, (g s).resource = s.resource)
      (hended : ∀ s, s.ended = true → (g s).ended = true)
      (h : t'.standIns = t.standIns.modify i g)

theorem standInStep_endStandIn (i : Nat) (default : Outcome) (now : Instant) :
    StandInStep t (t.endStandIn i default now) := by
  rcases t.endStandIn_eq i default now with heq | ⟨stats, overflowed, heq⟩ <;> rw [heq]
  · exact .same rfl
  · exact .changed i ({ · with ended := true }) (fun _ => rfl) (fun _ => rfl) (fun _ _ => rfl) rfl

theorem Step.standIns (h : Step t J t') (hov : t'.overflowed = false) : StandInStep t t' := by
  cases h with
  | idle | openSpan | reviseSpan | withCaller => exact .same rfl
  | openStandIn e b reason now => exact .opened b reason now rfl
  | revise g =>
    unfold Transaction.revise
    split <;> exact .same rfl
  | reviseStandIn i outcome =>
    exact .changed i ({ · with outcome := some outcome }) (fun _ => rfl) (fun _ => rfl)
      (fun _ h => h) rfl
  | endStandIn i default now => exact standInStep_endStandIn i default now
  | endSpan i default now frames =>
    cases hlive : t.liveSpan? i with
    | none => exact .same (by simp [Transaction.endSpan, hlive])
    | some sd =>
      obtain ⟨-, stats, heq⟩ := endSpan_eq hlive hov
      obtain ⟨buffer, spans, overflowed, hoffer⟩ :=
        (t.closeSpan i).offer_eq sd.1.parent (t.finished sd.1 sd.2 default now frames)
      rw [heq, hoffer]
      exact .same rfl
  | finish result name now =>
    cases hended : t.ended with
    | true => exact .same (by simp [Transaction.finish, hended])
    | false =>
      obtain ⟨-, details, stats, heq, -⟩ := finish_eq hended hov
      rw [heq]
      exact .same rfl

theorem StandInStep.refusedOnly (h : StandInStep t t') (hrefused : t.RefusedOnly) :
    t'.RefusedOnly := by
  intro s hs hresource
  cases h with
  | same h => exact hrefused s (h ▸ hs) hresource
  | opened b reason now h =>
    rw [h] at hs
    rcases Array.mem_push.mp hs with hs | rfl
    · exact hrefused s hs hresource
    · by_contra hreason
      have hreason : reason ≠ .maxSpansExceeded := hreason
      simp [SpanBuilder.standIn, hreason] at hresource
  | changed i g hreason hsame hended h =>
    obtain ⟨j, hj⟩ := Array.getElem?_of_mem hs
    rw [h, Array.getElem?_modify] at hj
    split at hj
    · obtain ⟨s', hs', rfl⟩ := Option.map_eq_some_iff.mp hj
      rw [hreason]
      exact hrefused s' (Array.mem_of_getElem? hs') (hsame s' ▸ hresource)
    · exact hrefused s (Array.mem_of_getElem? hj) hresource

theorem countP_le_countP_modify {α : Type} {p : α → Bool} {g : α → α}
    (h : ∀ x, p x = true → p (g x) = true) (l : List α) (i : Nat) :
    l.countP p ≤ (l.modify i g).countP p := by
  cases hx : l[i]? with
  | none => rw [List.modify_eq_self (List.getElem?_eq_none_iff.mp hx)]
  | some x =>
    obtain ⟨A, B, hl, hmodify⟩ := exists_modify_eq hx
    rw [hmodify, hl]
    simp only [List.countP_append, List.countP_cons]
    have hle : (if p x = true then 1 else 0) ≤ if p (g x) = true then 1 else 0 := by
      split
      · rw [if_pos (h x ‹_›)]
      · exact Nat.zero_le _
    omega

/-- No stand-in begins anew. -/
theorem StandInStep.endedRefusals_le (h : StandInStep t t') :
    t.endedRefusals ≤ t'.endedRefusals := by
  cases h with
  | same h => rw [endedRefusals, endedRefusals, h]
  | opened b reason now h =>
    rw [endedRefusals, endedRefusals, h, Array.toList_push, List.countP_append]
    exact Nat.le_add_right _ _
  | changed i g hreason hresource hended h =>
    rw [endedRefusals, endedRefusals, h, Array.toList_modify]
    refine countP_le_countP_modify (fun s hs => ?_) _ i
    simp only [Bool.and_eq_true, decide_eq_true_eq] at hs ⊢
    exact ⟨(hreason s).trans hs.1, hended s hs.2⟩

/-! ### What a step tracks -/

/-- The end of a stand-in is counted under its destination, if it is a drop. -/
theorem stats_endStandIn (hrefused : t.RefusedOnly) :
    (t.endStandIn i default now).stats =
      (t.dropOfStandIn? i default now).toList.foldl DroppedStats.add t.stats := by
  unfold endStandIn dropOfStandIn?
  cases hs : t.standIns[i]? with
  | none => rfl
  | some s =>
    cases hended : s.ended with
    | true => simp [hended]
    | false =>
      cases hresource : s.resource with
      | none => simp [hended, hresource, modifyStandIn]
      | some resource =>
        have hreason : s.reason = .maxSpansExceeded :=
          hrefused s (Array.mem_of_getElem? hs) (by simp [hresource])
        simp [hended, hreason, hresource, track, modifyStandIn, DroppedStats.add]

/-- What is counted is a stand-in that was refused for the budget and has not ended. -/
theorem exists_standIn_of_drop {d : DroppedSpanStat}
    (hdrop : t.dropOfStandIn? i default now = some d) :
    ∃ s resource, t.standIns[i]? = some s ∧ s.ended = false ∧ s.reason = .maxSpansExceeded ∧
      s.resource = some resource ∧
      d = ⟨resource, s.outcome.getD default, 1, s.duration.getD (Instant.since now s.start)⟩ := by
  obtain ⟨s, hs, hdrop⟩ := Option.bind_eq_some_iff.mp hdrop
  rw [Option.ite_none_left_eq_some] at hdrop
  obtain ⟨hlive, hdrop⟩ := hdrop
  obtain ⟨resource, hresource, rfl⟩ := Option.map_eq_some_iff.mp hdrop
  obtain ⟨hended, hreason⟩ : s.ended = false ∧ s.reason = .maxSpansExceeded := by
    simpa using hlive
  exact ⟨s, resource, hs, hended, hreason, hresource, rfl⟩

/-- A stand-in that is counted counts for one, and has ended then. -/
theorem endedRefusals_endStandIn {d : DroppedSpanStat}
    (hdrop : t.dropOfStandIn? i default now = some d) :
    d.count = 1 ∧ (t.endStandIn i default now).endedRefusals = t.endedRefusals + 1 := by
  obtain ⟨s, resource, hs, hended, hreason, hresource, rfl⟩ := exists_standIn_of_drop hdrop
  have hstandIns : (t.endStandIn i default now).standIns =
      t.standIns.modify i ({ · with ended := true }) := by
    simp [endStandIn, hs, hended, hresource, track, modifyStandIn]
  obtain ⟨A, B, hlist, hmodify⟩ :=
    exists_modify_eq (l := t.standIns.toList) (i := i) (x := s) (by simpa using hs)
  refine ⟨rfl, ?_⟩
  rw [endedRefusals, endedRefusals, hstandIns, Array.toList_modify, hmodify, hlist]
  simp [hended, hreason]
  omega

/-- A stand-in that is counted has its moment. -/
theorem mem_chronicleOfStandIn {d : DroppedSpanStat}
    (hdrop : t.dropOfStandIn? i default now = some d) :
    .tracked d.sum ∈ t.chronicleOfStandIn i now := by
  obtain ⟨s, resource, hs, hended, hreason, hresource, rfl⟩ := exists_standIn_of_drop hdrop
  simp [chronicleOfStandIn, hs, hended, hresource]

/-- What a step does to the table: its drops are added. They count no more than the spans that were
left out in the step and the stand-ins that ended in it. -/
structure Tracks (t : Transaction) (J : Journal) (D : List DroppedSpanStat) (t' : Transaction) :
    Prop where
  stats : t'.stats = D.foldl DroppedStats.add t.stats
  counted : (D.map (·.count)).sum + t.endedRefusals ≤ Journal.discarded J + t'.endedRefusals
  refusedOnly : t'.RefusedOnly

theorem tracks_endStandIn (hrefused : t.RefusedOnly) :
    t.Tracks [] (t.dropOfStandIn? i default now).toList (t.endStandIn i default now) where
  stats := stats_endStandIn hrefused
  counted := by
    cases hdrop : t.dropOfStandIn? i default now with
    | none => simpa using (standInStep_endStandIn i default now).endedRefusals_le
    | some d =>
      obtain ⟨hcount, hmore⟩ := endedRefusals_endStandIn hdrop
      simp [hcount, hmore, Nat.add_comm]
  refusedOnly := (standInStep_endStandIn i default now).refusedOnly hrefused

/-- Where no stand-in is counted, the drops are those of the spans that were left out. -/
theorem tracks_of_step (h : Step t J t') (hov : t'.overflowed = false) (hrefused : t.RefusedOnly)
    (hstats : t'.stats = (Journal.drops J).foldl DroppedStats.add t.stats) :
    t.Tracks J (Journal.drops J) t' where
  stats := hstats
  counted := Nat.add_le_add (Journal.sum_count_drops_le J) (h.standIns hov).endedRefusals_le
  refusedOnly := (h.standIns hov).refusedOnly hrefused

/-- **A step in which no stand-in is counted** tracks what is left out. -/
theorem Told.tracks (h : Told t C t') (hov : t'.overflowed = false) (hrefused : t.RefusedOnly)
    (huntracked : ∀ d, .tracked d ∉ C) : t.Tracks C.journal (Journal.drops C.journal) t' := by
  refine tracks_of_step h.step hov hrefused ?_
  cases h with
  | idle hidle => exact hidle.stats
  | endStandIn i default now =>
    have hnone : t.dropOfStandIn? i default now = none :=
      Option.eq_none_iff_forall_ne_some.mpr fun d hdrop =>
        huntracked d.sum (mem_chronicleOfStandIn hdrop)
    rw [stats_endStandIn hrefused, hnone, journal_chronicleOfStandIn]
    rfl
  | endSpan i default now frames => rw [stats_endSpan hov, journal_chronicleOfSpan]
  | finish result name now => rw [stats_finish hov, journal_chronicleAtEnd]

/-! ### The table of all drops -/

/-- The table is that of all drops until now. They count no more than the spans that were left out
and the stand-ins that have ended. -/
structure Accounts (t : Transaction) (J : Journal) (D : List DroppedSpanStat) : Prop where
  stats : t.stats = DroppedStats.ofDrops D
  counted : (D.map (·.count)).sum ≤ Journal.discarded J + t.endedRefusals
  refusedOnly : t.RefusedOnly

theorem accounts_of_isNew (h : t.IsNew) : t.Accounts [] [] where
  stats := h.stats
  counted := Nat.zero_le _
  refusedOnly := by simp [RefusedOnly, h.standIns]

/-- **The table, one step further.** -/
theorem Accounts.step (h : t.Accounts J D) (htracks : t.Tracks K D' t') :
    t'.Accounts (J ++ K) (D ++ D') where
  stats := by rw [htracks.stats, h.stats, DroppedStats.ofDrops, DroppedStats.ofDrops,
    List.foldl_append]
  counted := by
    have hbefore := h.counted
    have hnow := htracks.counted
    rw [List.map_append, List.sum_append, Journal.discarded_append]
    omega
  refusedOnly := htracks.refusedOnly

/-- The table counts no more spans than were dropped. -/
theorem Accounts.sum_count_le (h : t.Accounts J D) (hc : t.Conserved J) :
    (t.stats.map (·.count)).sum ≤ t.spanCount.dropped := by
  calc (t.stats.map (·.count)).sum
      ≤ (D.map (·.count)).sum := h.stats ▸ DroppedStats.sum_count_ofDrops_le D
    _ ≤ Journal.discarded J + t.endedRefusals := h.counted
    _ ≤ Journal.discarded J + t.refusals := Nat.add_le_add_left t.endedRefusals_le_refusals _
    _ = t.spanCount.dropped := hc.dropped.symm

end Transaction

end Telemetry
