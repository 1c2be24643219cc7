import Mathlib.Algebra.Order.BigOperators.Group.List
import Mathlib.Algebra.Order.Group.Nat
import Telemetry.Proofs.Transaction.Recount

/-!
# Time that is added up

Durations are added in two places. A composite adds up the time of its members, and a statistic of
dropped spans adds up the time of the spans that it counts: stand-ins that ended, and finished spans
that were left out, composites among them. Besides, a composite lasts until its last member ended,
counted from the start of the transaction.

Time that is added to a composite may be added to a statistic later, when the composite is left out.
It is not added twice, though: what has not been added to a statistic is held. So no sum exceeds the
time of all that was counted or might be merged or left out when it ended, together with what is
held. That time is told by the chronicle. As long as it can be represented nothing overflows.

Spans that are neither short enough to be left out nor short enough to be merged may last as long as
they like.

## Main definitions

* `FinishedSpan.mergeable`, `Limits.adds`: a span whose time may be added to that of others.
* `Limits.time`, `Chronicle.time`: the time that may be added.
* `Chronicle.Fits`: that time can be represented.
* `Transaction.Within`, `Transaction.Timed`: every sum is within a bound, with more to come.

## Main results

* `CompressionBuffer.timeOf_offer`: no time is lost or added twice when a span is offered.
* `Transaction.Timed.endSpan`, `Transaction.Told.timed`: the bound grows with the chronicle.
-/

namespace Telemetry

/-! ### The time that may be added -/

/-- The span may be merged with others: it is short enough for some limit. -/
def FinishedSpan.mergeable (settings : CompressionSettings) (s : FinishedSpan) : Bool :=
  settings.enabled && s.eligible &&
    s.record.duration ≤ max settings.exactMatchMax settings.sameKindMax

/-- Spans that match are short enough for some limit, apart from composites. -/
theorem FinishedSpan.durations_le_of_strategyFor {settings : CompressionSettings}
    {s child : FinishedSpan} {strategy : CompressionStrategy}
    (h : s.strategyFor settings child = some strategy) :
    child.record.duration ≤ max settings.exactMatchMax settings.sameKindMax ∧
      (s.composite = none →
        s.record.duration ≤ max settings.exactMatchMax settings.sameKindMax) := by
  unfold strategyFor at h
  cases hc : s.composite with
  | none =>
    simp only [hc] at h
    split at h
    · rename_i hexact
      simp only [Bool.and_eq_true, decide_eq_true_eq] at hexact
      exact ⟨hexact.2.trans (le_max_left _ _), fun _ => hexact.1.2.trans (le_max_left _ _)⟩
    split at h
    · rename_i hkind
      simp only [Bool.and_eq_true, decide_eq_true_eq] at hkind
      exact ⟨hkind.2.trans (le_max_right _ _), fun _ => hkind.1.2.trans (le_max_right _ _)⟩
    · cases h
  | some c =>
    simp only [hc] at h
    refine ⟨?_, nofun⟩
    split at h
    · rename_i hexact
      simp only [Bool.and_eq_true, decide_eq_true_eq] at hexact
      exact hexact.2.trans (le_max_left _ _)
    split at h
    · rename_i hkind
      simp only [Bool.and_eq_true, decide_eq_true_eq] at hkind
      exact hkind.2.trans (le_max_right _ _)
    · cases h

namespace Limits

variable {l : Limits} {s : FinishedSpan}

/-- The time of the span may be added to that of others: it is short enough to be left out, or to be
merged. -/
def adds (l : Limits) (s : FinishedSpan) : Bool :=
  (s.discardable && s.record.duration < l.exitSpanMin) || s.mergeable l.compression

/-- The time of a finished span that has been added up, or may be. -/
def time (l : Limits) (s : FinishedSpan) : Duration :=
  match s.composite with
  | some c => c.sum
  | none => if l.adds s then s.record.duration else 0

/-- The time of finished spans together. -/
def timeOf (l : Limits) (spans : List FinishedSpan) : Duration := (spans.map l.time).sum

@[simp] theorem timeOf_nil (l : Limits) : l.timeOf [] = 0 := rfl

@[simp] theorem timeOf_cons (l : Limits) (s : FinishedSpan) (rest : List FinishedSpan) :
    l.timeOf (s :: rest) = l.time s + l.timeOf rest := by
  simp [timeOf]

@[simp] theorem timeOf_append (l : Limits) (spans others : List FinishedSpan) :
    l.timeOf (spans ++ others) = l.timeOf spans + l.timeOf others := by
  simp [timeOf]

theorem timeOf_perm {spans others : List FinishedSpan} (h : spans.Perm others) :
    l.timeOf spans = l.timeOf others :=
  (h.map _).sum_nat

/-- All the time that a span stands for counts if it may be added. -/
theorem time_eq_total (h : s.composite = none → l.adds s = true) : l.time s = s.total := by
  unfold time FinishedSpan.total
  cases hc : s.composite with
  | some c => rfl
  | none => exact if_pos (h hc)

theorem adds_of_mergeable (h : s.mergeable l.compression = true) : l.adds s = true := by
  rw [adds, h, Bool.or_true]

end Limits

/-! ### The time that a chronicle tells of -/

/-- The time that may be added at a moment. -/
def Moment.time (l : Limits) : Moment → Duration
  | .ended _ _ f => l.time f
  | .tracked d => d
  | .left _ _ | .reported _ => 0

/-- If a span ends that may be merged, a clock can represent when. -/
def Moment.InTime (l : Limits) : Moment → Prop
  | .ended _ _ f => f.mergeable l.compression = true → f.finish ≤ Duration.longest
  | .left _ _ | .reported _ | .tracked _ => True

instance (l : Limits) : DecidablePred (Moment.InTime l)
  | .ended _ _ f =>
    inferInstanceAs (Decidable (f.mergeable l.compression = true → f.finish ≤ Duration.longest))
  | .left _ _ | .reported _ | .tracked _ => inferInstanceAs (Decidable True)

namespace Chronicle

variable {l : Limits}

/-- The time of all that ended, as far as it may be added to that of others. -/
def time (l : Limits) (C : Chronicle) : Duration := (C.map (·.time l)).sum

@[simp] theorem time_nil (l : Limits) : time l [] = 0 := rfl

@[simp] theorem time_append (l : Limits) (C K : Chronicle) :
    time l (C ++ K) = time l C + time l K := by
  simp [time]

@[simp] theorem time_cons (l : Limits) (m : Moment) (C : Chronicle) :
    time l (m :: C) = m.time l + time l C := by
  simp [time]

@[simp] theorem time_leaving (l : Limits) (parent : Option Nat) (J : Journal) :
    time l (leaving parent J) = 0 := by
  induction J with
  | nil => rfl
  | cons r rest ih => simpa [leaving, Moment.time] using ih

/-- A clock can represent the time together, and when the spans that may be merged ended. -/
structure Fits (l : Limits) (C : Chronicle) : Prop where
  time_le : time l C ≤ Duration.longest
  inTime : ∀ m ∈ C, m.InTime l

instance (l : Limits) (C : Chronicle) : Decidable (Fits l C) :=
  decidable_of_iff (time l C ≤ Duration.longest ∧ ∀ m ∈ C, m.InTime l)
    ⟨fun h => ⟨h.1, h.2⟩, fun h => ⟨h.time_le, h.inTime⟩⟩

theorem Fits.of_append {C K : Chronicle} (h : Fits l (C ++ K)) : Fits l C where
  time_le := by
    have hsum := h.time_le
    rw [time_append] at hsum
    exact (Nat.le_add_right _ _).trans hsum
  inTime := fun m hm => h.inTime m (List.mem_append_left _ hm)

end Chronicle

/-! ### Offers -/

namespace CompressionBuffer

variable {b : CompressionBuffer} {l : Limits} {s child : FinishedSpan}
  {strategy : CompressionStrategy}

/-- The time of two spans that are merged counts in full. -/
theorem time_of_strategyFor (henabled : l.compression.enabled = true) (hs : s.eligible = true)
    (hchild : child.eligible = true) (plain : child.composite = none)
    (h : s.strategyFor l.compression child = some strategy) :
    l.time s = s.total ∧ l.time child = child.record.duration ∧
      child.mergeable l.compression = true := by
  obtain ⟨hle, hle'⟩ := FinishedSpan.durations_le_of_strategyFor h
  have hmergeable : child.mergeable l.compression = true := by
    simp [FinishedSpan.mergeable, henabled, hchild, hle]
  refine ⟨Limits.time_eq_total fun hplain => Limits.adds_of_mergeable ?_, ?_, hmergeable⟩
  · simp [FinishedSpan.mergeable, henabled, hs, hle' hplain]
  · rw [Limits.time_eq_total fun _ => Limits.adds_of_mergeable hmergeable, FinishedSpan.total,
      plain]

/-- **No time is lost or added twice** when a span is offered. -/
theorem timeOf_offer (hb : ∀ s ∈ b.slot, s.eligible = true) (plain : child.composite = none) :
    l.timeOf ((b.offer l.compression child).2) +
        l.timeOf (b.offer l.compression child).1.slot.toList =
      l.timeOf b.slot.toList + l.time child := by
  rcases b.offer_cases l.compression child with
    ⟨-, heq⟩ | heq | ⟨-, heq⟩ | ⟨s, strategy, hchild, hs, hstrategy, heq⟩
  · simp [heq, Nat.add_comm]
  · simp [heq]
  · simp [heq]
  · -- the child would have passed through otherwise
    have henabled : l.compression.enabled = true := by
      by_contra hdisabled
      unfold offer at heq
      split at heq <;> simp_all
    obtain ⟨htime, htime', -⟩ :=
      time_of_strategyFor henabled (hb s hs) hchild plain hstrategy
    have habsorb : l.time (s.absorb child strategy) = s.total + child.record.duration := rfl
    simp [heq, hs, habsorb, htime, htime']

/-- Where the time can be represented, and the child has ended by then, nothing overflows. -/
theorem offerOverflows_eq_false (hb : ∀ s ∈ b.slot, s.eligible = true)
    (plain : child.composite = none)
    (hsum : l.timeOf b.slot.toList + l.time child ≤ Duration.longest)
    (hfinish : child.mergeable l.compression = true → child.finish ≤ Duration.longest) :
    b.offerOverflows l.compression child = false := by
  by_contra h
  simp only [offerOverflows, Bool.not_eq_false, Bool.and_eq_true] at h
  obtain ⟨⟨⟨-, henabled⟩, hchild⟩, hmerged⟩ := h
  cases hs : b.slot with
  | none => simp [hs] at hmerged
  | some s =>
    simp only [hs, Bool.and_eq_true, Option.isSome_iff_exists] at hmerged
    obtain ⟨⟨strategy, hstrategy⟩, hover⟩ := hmerged
    obtain ⟨htime, htime', hmergeable⟩ :=
      time_of_strategyFor henabled (hb s hs) hchild plain hstrategy
    have hlast := hfinish hmergeable
    simp only [hs, Option.toList_some, Limits.timeOf_cons, Limits.timeOf_nil, htime,
      htime'] at hsum
    simp only [FinishedSpan.absorbOverflows, Bool.or_eq_true, decide_eq_true_eq] at hover
    lia

end CompressionBuffer

/-! ### Sums within a bound -/

theorem DroppedStats.sum_le_of_mem_track {resource : String} {outcome : Outcome} {count : Nat}
    {sum : Duration} {stats : DroppedStats} {e : DroppedSpanStat}
    (h : e ∈ stats.track resource outcome count sum) :
    e.sum = sum ∨ ∃ e' ∈ stats, e.sum ≤ e'.sum + sum := by
  unfold track at h
  split at h
  · obtain ⟨e', he', rfl⟩ := List.mem_map.mp h
    refine .inr ⟨e', he', ?_⟩
    split
    · exact le_rfl
    · exact Nat.le_add_right _ _
  split at h
  · rcases List.mem_append.mp h with he | he
    · exact .inr ⟨e, he, Nat.le_add_right _ _⟩
    · rw [List.mem_singleton.mp he]
      exact .inl rfl
  · exact .inr ⟨e, h, Nat.le_add_right _ _⟩

namespace Transaction

variable {t t' : Transaction} {C K : Chronicle} {i : Nat} {parent : Option Nat} {s : Span}
  {d : SpanDetails} {f : FinishedSpan} {default : Outcome} {now : Instant} {frames : List Frame}
  {result name : Option String} {n pending : Duration}

/-- Nothing has overflowed, and every statistic is within the bound even if all that is pending is
added to it. -/
structure Within (t : Transaction) (n pending : Duration) : Prop where
  overflowed : t.overflowed = false
  pending_le : pending ≤ n
  stats : ∀ e ∈ t.stats, e.sum + pending ≤ n

/-- The time of all that the buffers hold. -/
def timeHeld (t : Transaction) : Duration := t.limits.timeOf t.held

theorem time_le_timeHeld (t : Transaction) (hf : f ∈ t.held) : t.limits.time f ≤ t.timeHeld :=
  List.le_sum_of_mem (List.mem_map_of_mem hf)

/-- Every sum is within the bound, with the time to come of all that the buffers hold. -/
def Timed (t : Transaction) (n : Duration) : Prop := t.Within n t.timeHeld

theorem Within.mono {less : Duration} (h : t.Within n pending) (hle : less ≤ pending) :
    t.Within n less where
  overflowed := h.overflowed
  pending_le := hle.trans h.pending_le
  stats := fun e he => (Nat.add_le_add_left hle _).trans (h.stats e he)

theorem Within.congr (h : t.Within n pending) (hoverflowed : t'.overflowed = t.overflowed)
    (hstats : t'.stats = t.stats) : t'.Within n pending where
  overflowed := hoverflowed.trans h.overflowed
  pending_le := h.pending_le
  stats := fun e he => h.stats e (hstats ▸ he)

/-- More time is to come. -/
theorem Within.add (h : t.Within n pending) (d : Duration) : t.Within (n + d) (pending + d) where
  overflowed := h.overflowed
  pending_le := Nat.add_le_add_right h.pending_le d
  stats := fun e he => by
    have hstat := h.stats e he
    lia

/-- Some of what is pending is added to a statistic. -/
theorem Within.track {resource : String} {outcome : Outcome} {count : Nat} {sum : Duration}
    (h : t.Within n (sum + pending)) (hn : n ≤ Duration.longest) :
    (t.track resource outcome count sum).Within n pending where
  overflowed := by
    have hfits : t.stats.overflows resource outcome sum = false := by
      refine List.any_eq_false.mpr fun e he => ?_
      have hstat := h.stats e he
      simp only [Bool.and_eq_true, decide_eq_true_eq]
      lia
    simp only [Transaction.track, h.overflowed, hfits, Bool.or_self]
  pending_le := (Nat.le_add_left _ _).trans h.pending_le
  stats := fun e he => by
    rcases DroppedStats.sum_le_of_mem_track he with heq | ⟨e', he', hle⟩
    · rw [heq]
      exact h.pending_le
    · have hstat := h.stats e' he'
      lia

theorem Within.discard (h : t.Within n (f.total + pending)) (hn : n ≤ Duration.longest) :
    (t.discard f).Within n pending := by
  cases hr : f.resource with
  | none =>
    simp only [Transaction.discard, hr]
    exact (h.mono (Nat.le_add_left _ _)).congr rfl rfl
  | some resource =>
    simp only [Transaction.discard, hr]
    exact Within.track (h.congr rfl rfl) hn

theorem time_of_isTooShort (h : t.isTooShort f = true) : t.limits.time f = f.total := by
  refine Limits.time_eq_total fun _ => ?_
  unfold isTooShort at h
  rw [Limits.adds, h, Bool.true_or]

theorem Within.report (h : t.Within n (t.limits.time f + pending)) (hn : n ≤ Duration.longest) :
    (t.report f).1.Within n pending := by
  simp only [Transaction.report, h.overflowed, Bool.false_eq_true, if_false]
  split
  · rename_i hshort
    rw [time_of_isTooShort hshort] at h
    exact h.discard hn
  · exact (h.mono (Nat.le_add_left _ _)).congr h.overflowed.symm rfl

/-- What leaves the buffers is not pending any more once it has been reported. -/
theorem Within.reportAll {spans : List FinishedSpan}
    (h : t.Within n (t.limits.timeOf spans + pending)) (hn : n ≤ Duration.longest) :
    (t.reportAll spans).1.Within n pending := by
  induction spans generalizing t with
  | nil => simpa [Transaction.reportAll] using h
  | cons f rest ih =>
    rw [Limits.timeOf_cons, Nat.add_assoc] at h
    have hfirst := h.report hn
    obtain ⟨-, stats, heq⟩ := report_eq f hfirst.overflowed
    have hlimits : (t.report f).1.limits = t.limits := by
      rw [heq]
      rfl
    rw [← hlimits] at hfirst
    exact ih (t := (t.report f).1) hfirst

@[simp] theorem timeHeld_reportAll (t : Transaction) (spans : List FinishedSpan) :
    (t.reportAll spans).1.timeHeld = t.timeHeld := by
  obtain ⟨_, _, _, _, heq⟩ := t.reportAll_frame spans
  rw [heq]
  rfl

/-! ### The operations -/

theorem timeOf_bufferOf_le (hp : t.MayEnclose parent) :
    t.limits.timeOf (t.bufferOf parent).slot.toList ≤ t.timeHeld := by
  obtain ⟨rest, hbefore, -⟩ := held_setBuffer (t.bufferOf parent) hp
  rw [timeHeld, Limits.timeOf_perm hbefore, Limits.timeOf_append]
  exact Nat.le_add_right _ _

/-- What is offered is held, or what leaves the buffer was held. -/
theorem timeHeld_offer (hp : t.MayEnclose parent)
    (hb : ∀ s ∈ (t.bufferOf parent).slot, s.eligible = true) (plain : f.composite = none) :
    t.limits.timeOf (t.offer parent f).2 + (t.offer parent f).1.timeHeld =
      t.timeHeld + t.limits.time f := by
  obtain ⟨rest, hbefore, hafter⟩ :=
    held_setBuffer ((t.bufferOf parent).offer t.limits.compression f).1 hp
  have hafter' : (t.offer parent f).1.held.Perm
      (((t.bufferOf parent).offer t.limits.compression f).1.slot.toList ++ rest) := hafter
  have hready : (t.offer parent f).2 = ((t.bufferOf parent).offer t.limits.compression f).2 := rfl
  have hconserved := CompressionBuffer.timeOf_offer (l := t.limits) hb plain
  rw [timeHeld, timeHeld, (grows_offer t parent f).limits, Limits.timeOf_perm hbefore,
    Limits.timeOf_perm hafter', Limits.timeOf_append, Limits.timeOf_append, hready,
    ← Nat.add_assoc, hconserved]
  exact Nat.add_right_comm _ _ _

/-- A span is offered to a buffer. -/
theorem Within.offer (h : t.Within n (t.timeHeld + t.limits.time f)) (hn : n ≤ Duration.longest)
    (hp : t.MayEnclose parent) (hb : ∀ s ∈ (t.bufferOf parent).slot, s.eligible = true)
    (plain : f.composite = none)
    (hfinish : f.mergeable t.limits.compression = true → f.finish ≤ Duration.longest) :
    (t.offer parent f).1.Within n
      (t.limits.timeOf (t.offer parent f).2 + (t.offer parent f).1.timeHeld) := by
  have hsum : t.limits.timeOf (t.bufferOf parent).slot.toList + t.limits.time f ≤
      Duration.longest :=
    (Nat.add_le_add_right (timeOf_bufferOf_le hp) _).trans (h.pending_le.trans hn)
  have hfits := CompressionBuffer.offerOverflows_eq_false hb plain hsum hfinish
  rw [timeHeld_offer hp hb plain]
  refine h.congr ?_ ?_
  · simp only [Transaction.offer, hfits, Bool.or_false]
  · obtain ⟨_, _, _, heq⟩ := t.offer_eq parent f
    rw [heq]

/-- **The end of a span** adds its time to what is held, or to what leaves the buffers. -/
theorem Timed.endSpan (h : t.Timed n) (hn : t.Nested) (hseg : t.Segmented C)
    (hlive : t.liveSpan? i = some (s, d))
    (hsum : n + t.limits.time (t.finished s d default now frames) ≤ Duration.longest)
    (hfinish : (t.finished s d default now frames).mergeable t.limits.compression = true →
      (t.finished s d default now frames).finish ≤ Duration.longest) :
    (t.endSpan i default now frames).1.Timed
      (n + t.limits.time (t.finished s d default now frames)) := by
  obtain ⟨hs, hd⟩ := liveSpan?_eq_some_iff.mp hlive
  obtain ⟨houtlines, -, -⟩ := perm_closeSpan hs (by simp [Span.ended, hd])
  have hheld : t.timeHeld =
      t.limits.timeOf s.buffer.slot.toList + (t.closeSpan i).timeHeld := by
    rw [timeHeld, Limits.timeOf_perm (held_closeSpan hs), Limits.timeOf_append]
    rfl
  have hclosed : (t.closeSpan i).Within n
      (t.limits.timeOf s.buffer.slot.toList + (t.closeSpan i).timeHeld) := by
    rw [← hheld]
    exact Within.congr h rfl rfl
  have hearly := hclosed.reportAll ((Nat.le_add_right _ _).trans hsum)
  have heligible : ∀ g ∈ ((t.closeSpan i).bufferOf s.parent).slot, g.eligible = true :=
    ((hseg.closeSpan hs).proper s.parent).eligible
  have hmay : (t.closeSpan i).MayEnclose s.parent := (hn.mayEnclose hs).congr houtlines
  rw [endSpan_of_live hlive]
  -- what is reported first leaves the spans and the buffers alone
  obtain ⟨started, dropped, stats, overflowed, heq⟩ :=
    (t.closeSpan i).reportAll_frame s.buffer.slot.toList
  rw [heq] at hearly
  simp only [heq]
  have hoffered := (hearly.add _).offer hsum hmay heligible rfl hfinish
  rw [Timed, timeHeld_reportAll]
  refine Within.reportAll ?_ hsum
  rw [(grows_offer _ _ _).limits]
  exact hoffered

/-- **The end of the transaction** adds no time. -/
theorem Timed.finish (h : t.Timed n) (hn : n ≤ Duration.longest) :
    (t.finish result name now).1.Timed n := by
  cases hended : t.ended with
  | true => simpa only [Transaction.finish, hended, if_true] using h
  | false =>
    rw [finish_of_not_ended hended]
    have hclosed : (t.closeAtEnd result name).Within n
        (t.limits.timeOf t.buffer.slot.toList + (t.closeAtEnd result name).timeHeld) := by
      have hheld : t.timeHeld =
          t.limits.timeOf t.buffer.slot.toList + (t.closeAtEnd result name).timeHeld :=
        Limits.timeOf_append _ _ _
      rw [← hheld]
      exact Within.congr h rfl rfl
    have hreported := hclosed.reportAll hn
    rw [← timeHeld_reportAll] at hreported
    obtain ⟨details, heq⟩ := forgetContext_eq
      ((t.closeAtEnd result name).reportAll t.buffer.slot.toList).1
    simp only [heq]
    exact hreported.congr rfl rfl

/-- **The end of a stand-in** adds its time to a statistic, if it is counted. -/
theorem Timed.endStandIn (h : t.Timed n)
    (hsum : n + (t.chronicleOfStandIn i now).time t.limits ≤ Duration.longest) :
    (t.endStandIn i default now).Timed (n + (t.chronicleOfStandIn i now).time t.limits) := by
  unfold Transaction.endStandIn chronicleOfStandIn at *
  cases hs : t.standIns[i]? with
  | none => simpa [hs] using h
  | some s =>
    simp only [hs] at hsum ⊢
    cases hended : s.ended with
    | true => simpa [hended] using h
    | false =>
      cases hr : s.resource with
      | none =>
        simp only [Option.isNone_none, Bool.or_true, if_true, Bool.false_eq_true, if_false]
        exact Within.congr h rfl rfl
      | some resource =>
        simp only [hended, hr, Option.isNone_some, Bool.or_self, Bool.false_eq_true, if_false,
          Chronicle.time_cons, Chronicle.time_nil, Moment.time, Nat.add_zero] at hsum ⊢
        refine Within.track ?_ hsum
        rw [Nat.add_comm _ (timeHeld _)]
        exact Within.congr (Within.add h _) rfl rfl

theorem Timed.congr (h : t.Timed n) (hheld : t'.held = t.held) (hlimits : t'.limits = t.limits)
    (hoverflowed : t'.overflowed = t.overflowed) (hstats : t'.stats = t.stats) : t'.Timed n := by
  have hsame : t'.timeHeld = t.timeHeld := by rw [timeHeld, hheld, hlimits, timeHeld]
  rw [Timed, hsame]
  exact Within.congr h hoverflowed hstats

theorem timed_of_isNew (h : t.IsNew) : t.Timed 0 where
  overflowed := h.overflowed
  pending_le := by simp [timeHeld, held, h.slot, h.spans]
  stats := by simp [h.stats]

theorem time_chronicleOfSpan (l : Limits) (hlive : t.liveSpan? i = some (s, d)) :
    (t.chronicleOfSpan i default now frames).time l =
      l.time (t.finished s d default now frames) := by
  simp [chronicleOfSpan, hlive, Moment.time]

theorem time_chronicleAtEnd (l : Limits) : (t.chronicleAtEnd result name now).time l = 0 := by
  unfold chronicleAtEnd
  split
  · rfl
  · simp [Moment.time]

/-- **The bound grows with the chronicle**, as long as a clock can represent it. -/
theorem Told.timed (h : Told t K t') (hc : t.Chronicled C)
    (ht : t.Timed (C.time t.limits)) (hfits : Chronicle.Fits t.limits (C ++ K)) :
    t'.Timed ((C ++ K).time t.limits) := by
  have hsum := hfits.time_le
  rw [Chronicle.time_append] at hsum ⊢
  cases h with
  | idle hidle hstep =>
    exact ht.congr hidle.held hstep.grows.limits hidle.overflowed hidle.stats
  | endStandIn => exact ht.endStandIn hsum
  | endSpan i default now frames =>
    cases hlive : t.liveSpan? i with
    | none => simpa [Transaction.endSpan, chronicleOfSpan, hlive] using ht
    | some sd =>
      have hmem : .ended i sd.1.parent (t.finished sd.1 sd.2 default now frames) ∈
          t.chronicleOfSpan i default now frames :=
        (mem_chronicleOfSpan hlive).mpr ⟨rfl, rfl, rfl⟩
      rw [time_chronicleOfSpan _ hlive] at hsum ⊢
      exact ht.endSpan hc.conserved.nested hc.segmented hlive hsum
        (hfits.inTime _ (List.mem_append_right _ hmem))
  | finish result name now =>
    rw [time_chronicleAtEnd] at hsum ⊢
    exact ht.finish hsum

end Transaction

end Telemetry
