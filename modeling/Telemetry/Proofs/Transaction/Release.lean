import Mathlib.Algebra.Ring.Nat
import Telemetry.Transaction.Lifecycle

/-!
# What leaves the buffers of a transaction

A finished span that leaves the buffers of a transaction is released: it is reported, or left out
because it was too short. The journal of a transaction is the list of all its releases. What the
operations that release spans do to the counters, and which records they hand over, can be told from
their releases alone.

Nothing is said about a transaction of which some duration overflowed; it stays so.

## Main definitions

* `Release`, `Journal`, `Transaction.tally`.
* `Transaction.leaving`, `Transaction.leavingAtEnd`: what leaves the buffers.

## Main results

* `Transaction.reportAll_eq`: reporting counts, and hands over the records.
* `Transaction.endSpan_eq`, `Transaction.finish_eq`: the end of a span, and of the transaction.
-/

namespace Telemetry

/-! ### Releases -/

/-- A finished span that has left the buffers. It was reported, or else left out. -/
structure Release where
  span : FinishedSpan
  reported : Bool

/-- What has left the buffers, oldest first. -/
abbrev Journal := List Release

namespace Journal

/-- The records that were reported. -/
def records (J : Journal) : List SpanRecord := (J.filter (·.reported)).map (·.span.toRecord)

/-- How many spans were left out; a composite counts with all its members. -/
def discarded (J : Journal) : Nat := ((J.filter (!·.reported)).map (·.span.count)).sum

@[simp] theorem records_nil : records [] = [] := rfl

@[simp] theorem discarded_nil : discarded [] = 0 := rfl

@[simp] theorem records_append (J K : Journal) : records (J ++ K) = records J ++ records K := by
  simp [records]

@[simp] theorem discarded_append (J K : Journal) :
    discarded (J ++ K) = discarded J + discarded K := by
  simp [discarded]

end Journal

namespace Transaction

variable {t : Transaction}

/-- The release of a finished span. -/
def release (t : Transaction) (s : FinishedSpan) : Release := ⟨s, !t.isTooShort s⟩

/-- The transaction with releases counted, and with other statistics. -/
def tally (t : Transaction) (J : Journal) (stats : DroppedStats) : Transaction :=
  { t with
    started := t.started + (Journal.records J).length
    dropped := t.dropped + Journal.discarded J
    stats }

@[simp] theorem overflowed_tally (J : Journal) (stats : DroppedStats) :
    (t.tally J stats).overflowed = t.overflowed := rfl

theorem tally_tally (t : Transaction) (J K : Journal) (stats stats' : DroppedStats) :
    (t.tally J stats).tally K stats' = t.tally (J ++ K) stats' := by
  simp [tally, Nat.add_assoc]

theorem discard_eq (s : FinishedSpan) (h : (t.discard s).overflowed = false) :
    t.overflowed = false ∧
      ∃ stats, t.discard s = { t with dropped := t.dropped + s.count, stats } := by
  cases hr : s.resource with
  | none =>
    simp only [discard, hr] at h ⊢
    exact ⟨h, _, rfl⟩
  | some resource =>
    simp only [discard, hr, track, Bool.or_eq_false_iff] at h ⊢
    exact ⟨h.1, t.stats.track resource s.record.outcome s.count s.total, by simp [h.1, h.2]⟩

theorem report_eq (s : FinishedSpan) (h : (t.report s).1.overflowed = false) :
    t.overflowed = false ∧ ∃ stats,
      t.report s = (t.tally [t.release s] stats, Journal.records [t.release s]) := by
  unfold report at h ⊢
  split at h
  · simp_all
  split at h <;> rename_i hov hshort
  · obtain ⟨ht, stats, hs⟩ := discard_eq s h
    refine ⟨ht, stats, ?_⟩
    simp [hov, hshort, hs, tally, release, Journal.records, Journal.discarded]
  · refine ⟨by simpa using hov, t.stats, ?_⟩
    simp [hov, hshort, tally, release, Journal.records, Journal.discarded]

/-- Reporting counts what is released, and hands over the records. -/
theorem reportAll_eq (l : List FinishedSpan) (h : (t.reportAll l).1.overflowed = false) :
    t.overflowed = false ∧ ∃ stats,
      t.reportAll l = (t.tally (l.map t.release) stats, Journal.records (l.map t.release)) := by
  induction l generalizing t with
  | nil => exact ⟨h, t.stats, rfl⟩
  | cons s rest ih =>
    obtain ⟨hov, stats', hrest⟩ := ih (t := (t.report s).1) h
    obtain ⟨ht, stats, hs⟩ := report_eq s hov
    have hrelease : (t.report s).1.release = t.release := by rw [hs]; rfl
    refine ⟨ht, stats', ?_⟩
    simp only [reportAll, hrest, hrelease]
    simp only [hs, tally_tally, ← Journal.records_append, List.map_cons, List.singleton_append]

/-! ### Operations that release spans -/

variable {i : Nat} {parent : Option Nat} {s : Span} {d : SpanDetails} {f : FinishedSpan}
  {default : Outcome} {now : Instant} {frames : List Frame} {result name : Option String}

/-- The transaction with a span ended, whose own buffer is closed. -/
def closeSpan (t : Transaction) (i : Nat) : Transaction :=
  t.modifySpan i ({ · with details := none, buffer := ⟨none, true⟩ })

/-- What leaves the buffers when a span ends: what its own buffer held, and then what comes out of
its parent's. -/
def leaving (t : Transaction) (i : Nat) (default : Outcome) (now : Instant) (frames : List Frame) :
    List FinishedSpan :=
  match t.liveSpan? i with
  | none => []
  | some (s, d) =>
    s.buffer.slot.toList ++
      ((t.closeSpan i).offer s.parent (t.finished s d default now frames)).2

/-- What leaves the buffers when the transaction ends. -/
def leavingAtEnd (t : Transaction) : List FinishedSpan :=
  if t.ended then [] else t.buffer.slot.toList

theorem liveSpan?_eq_some_iff : t.liveSpan? i = some (s, d) ↔
    t.spans[i]? = some s ∧ s.details = some d := by
  cases hs : t.spans[i]? with
  | none => simp [liveSpan?, hs]
  | some s' =>
    simp only [liveSpan?, hs, Option.map_eq_some_iff, Prod.mk.injEq, Option.some.injEq]
    constructor
    · rintro ⟨_, hd, rfl, rfl⟩
      exact ⟨rfl, hd⟩
    · rintro ⟨rfl, hd⟩
      exact ⟨d, hd, rfl, rfl⟩

theorem offer_tally (J : Journal) (stats : DroppedStats) (parent : Option Nat)
    (f : FinishedSpan) : (t.tally J stats).offer parent f =
      ((t.offer parent f).1.tally J stats, (t.offer parent f).2) := by
  cases parent <;> rfl

@[simp] theorem release_tally (J : Journal) (stats : DroppedStats) :
    (t.tally J stats).release = t.release := rfl

@[simp] theorem release_closeSpan (i : Nat) : (t.closeSpan i).release = t.release := rfl

@[simp] theorem release_offer (parent : Option Nat) (f : FinishedSpan) :
    (t.offer parent f).1.release = t.release := by
  cases parent <;> rfl

theorem overflowed_of_offer (h : (t.offer parent f).1.overflowed = false) :
    t.overflowed = false :=
  (Bool.or_eq_false_iff.mp h).1

theorem endSpan_of_live (hlive : t.liveSpan? i = some (s, d)) :
    t.endSpan i default now frames =
      let early := (t.closeSpan i).reportAll s.buffer.slot.toList
      let offered := early.1.offer s.parent (t.finished s d default now frames)
      let late := offered.1.reportAll offered.2
      (late.1, early.2 ++ late.2) := by
  simp only [endSpan, hlive]
  rfl

/-- A span that ends is offered, and what leaves the buffers is reported. -/
theorem endSpan_eq (hlive : t.liveSpan? i = some (s, d))
    (h : (t.endSpan i default now frames).1.overflowed = false) :
    t.overflowed = false ∧ ∃ stats, t.endSpan i default now frames =
      (((t.closeSpan i).offer s.parent (t.finished s d default now frames)).1.tally
          ((t.leaving i default now frames).map t.release) stats,
        Journal.records ((t.leaving i default now frames).map t.release)) := by
  rw [endSpan_of_live hlive] at h ⊢
  obtain ⟨hoffer, stats', hlate⟩ := reportAll_eq _ h
  obtain ⟨hclosed, stats, hearly⟩ := reportAll_eq _ (overflowed_of_offer hoffer)
  refine ⟨hclosed, stats', ?_⟩
  rw [hearly, offer_tally] at hlate
  simp only [hearly, offer_tally, hlate]
  simp only [release_tally, release_offer, release_closeSpan, tally_tally,
    ← Journal.records_append, leaving, hlive, List.map_append]

/-- The transaction as it ends, before what its buffer held is reported. -/
def closeAtEnd (t : Transaction) (result name : Option String) : Transaction :=
  { t with
    ended := true
    buffer := ⟨none, true⟩
    details := { t.details with
      result := result.or t.details.result
      name := name.getD t.details.name } }

/-- The transaction without the context that went into its record. -/
def forgetContext (t : Transaction) : Transaction :=
  if t.sampled then { t with details := { t.details with context := [], labels := [] } } else t

theorem forgetContext_eq (t : Transaction) :
    ∃ details, t.forgetContext = { t with details } := by
  unfold forgetContext
  split
  · exact ⟨_, rfl⟩
  · exact ⟨t.details, rfl⟩

@[simp] theorem overflowed_forgetContext (t : Transaction) :
    t.forgetContext.overflowed = t.overflowed := by
  obtain ⟨details, h⟩ := forgetContext_eq t
  rw [h]

theorem finish_of_not_ended (hended : t.ended = false) : t.finish result name now =
    let u := (t.closeAtEnd result name).reportAll t.buffer.slot.toList
    (u.1.forgetContext, u.2.map .span ++
      if u.1.forgetContext.overflowed then [] else [.transaction (u.1.toRecord now)]) := by
  simp only [finish, hended, Bool.false_eq_true, if_false]
  rfl

/-- A transaction that ends closes its buffer, and what leaves it is reported first. -/
theorem finish_eq (hended : t.ended = false)
    (h : (t.finish result name now).1.overflowed = false) :
    t.overflowed = false ∧ ∃ details stats,
      (t.finish result name now).1 =
        { t with ended := true, buffer := ⟨none, true⟩, details }.tally
          (t.leavingAtEnd.map t.release) stats ∧
      (t.finish result name now).2 =
        (Journal.records (t.leavingAtEnd.map t.release)).map .span ++
          [.transaction <| ((t.closeAtEnd result name).tally
            (t.leavingAtEnd.map t.release) stats).toRecord now] := by
  rw [finish_of_not_ended hended] at h ⊢
  obtain ⟨ht, stats, hreport⟩ := reportAll_eq _ ((overflowed_forgetContext _).symm.trans h)
  have ht : t.overflowed = false := ht
  obtain ⟨details, hforget⟩ := forgetContext_eq
    ((t.closeAtEnd result name).tally (t.buffer.slot.toList.map t.release) stats)
  simp only [leavingAtEnd, hended, Bool.false_eq_true, if_false]
  refine ⟨ht, details, stats, ?_, ?_⟩
  · rw [hreport]
    exact hforget
  · rw [hreport]
    simp only [overflowed_forgetContext, overflowed_tally, closeAtEnd, ht, Bool.false_eq_true,
      if_false]
    rfl

end Transaction

end Telemetry
