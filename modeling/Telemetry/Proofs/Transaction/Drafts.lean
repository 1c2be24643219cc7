import Telemetry.Proofs.Transaction.Admission

/-!
# Spans as their handles see them

Through its handle a span can be changed until it ends. What it has to do with besides, the buffer
in which the calls beneath it wait, is no concern of the handle: most of what happens to a
transaction changes buffers and counters, and no span in this sense. The same goes for stand-ins.

Nothing here depends on whether some duration overflowed.

## Main definitions

* `Span.Draft`, `Transaction.draft?`: a span without its buffer and its place in time.

## Main results

* `Transaction.draft?_endSpan`, `Transaction.draft?_finish`: the end of a span settles that span,
  and the end of the transaction none.
* `Transaction.standIns_endSpan`, `Transaction.standIns_finish`: neither touches a stand-in.
-/

namespace Telemetry

/-- A span without its buffer and its place in time. -/
structure Span.Draft where
  leaf : Bool
  /-- `none` once the span has ended. -/
  details : Option SpanDetails

/-- A span as its handle sees it. -/
def Span.draft (s : Span) : Span.Draft := ⟨s.leaf, s.details⟩

namespace Transaction

variable {t : Transaction} {i : Nat}

/-- The span at a place, as its handle sees it. -/
def draft? (t : Transaction) (i : Nat) : Option Span.Draft := t.spans[i]?.map (·.draft)

theorem draft?_modifySpan {f : Span → Span} {g : Span.Draft → Span.Draft}
    (hf : ∀ s, (f s).draft = g s.draft) (j : Nat) :
    (t.modifySpan j f).draft? i = (t.draft? i).map fun d => if j = i then g d else d := by
  rw [draft?, modifySpan, Array.getElem?_modify, draft?]
  cases t.spans[i]? with
  | none => split <;> rfl
  | some s => by_cases hji : j = i <;> simp [hji, hf]

@[simp] theorem draft?_reviseSpan (j : Nat) (f : SpanDetails → SpanDetails) :
    (t.reviseSpan j f).draft? i =
      (t.draft? i).map fun d => if j = i then { d with details := d.details.map f } else d :=
  draft?_modifySpan (g := fun d => { d with details := d.details.map f }) (fun _ => rfl) j

@[simp] theorem draft?_outboundOf (j : Nat) :
    (t.outboundOf j).1.draft? i = (t.draft? i).map fun d =>
      if j = i then { d with details := d.details.map ({ · with propagated := true }) } else d := by
  unfold outboundOf
  split
  · exact draft?_reviseSpan j _
  · rename_i hnone
    have hne : ∀ d ∈ t.draft? i, (if j = i then
        { d with details := d.details.map ({ · with propagated := true }) } else d) = d := by
      intro d hd
      rw [if_neg]
      rintro rfl
      simp [draft?, hnone] at hd
    rw [Option.map_congr hne, Option.map_id']

/-- Buffers do not show. -/
@[simp] theorem draft?_offer (parent : Option Nat) (f : FinishedSpan) :
    (t.offer parent f).1.draft? i = t.draft? i := by
  cases parent with
  | none => rfl
  | some p =>
    have hbuffer := draft?_modifySpan (t := t) (i := i) (g := fun d => d)
      (f := ({ · with buffer := ((t.bufferOf (some p)).offer t.limits.compression f).1 }))
      (fun _ => rfl) p
    exact hbuffer.trans (by simp)

@[simp] theorem draft?_reportAll (l : List FinishedSpan) :
    (t.reportAll l).1.draft? i = t.draft? i := by
  obtain ⟨_, _, _, _, heq⟩ := t.reportAll_frame l
  rw [heq]
  rfl

theorem draft?_forgetContext (t : Transaction) : t.forgetContext.draft? i = t.draft? i := by
  obtain ⟨_, heq⟩ := t.forgetContext_eq
  rw [heq]
  rfl

theorem draft?_endStandIn (j : Nat) (default : Outcome) (now : Instant) :
    (t.endStandIn j default now).draft? i = t.draft? i := by
  rcases t.endStandIn_eq j default now with heq | ⟨_, _, heq⟩ <;> rw [heq]
  rfl

/-- **The end of a span** takes its details, and no other span's. -/
theorem draft?_endSpan (j : Nat) (default : Outcome) (now : Instant) (frames : List Frame) :
    (t.endSpan j default now frames).1.draft? i =
      (t.draft? i).map fun d => if j = i then { d with details := none } else d := by
  cases hlive : t.liveSpan? j with
  | none =>
    have hsettled : ∀ d ∈ t.draft? i, (if j = i then { d with details := none } else d) = d := by
      intro d hd
      split
      · rename_i hji
        subst hji
        obtain ⟨s, hs, rfl⟩ := Option.map_eq_some_iff.mp hd
        have hdetails : s.details = none := by simpa [liveSpan?, hs] using hlive
        simp [Span.draft, hdetails]
      · rfl
    simp only [endSpan, hlive]
    rw [Option.map_congr hsettled, Option.map_id']
  | some sd =>
    rw [endSpan_of_live hlive]
    simp only [draft?_reportAll, draft?_offer]
    exact draft?_modifySpan (g := fun d => { d with details := none }) (fun _ => rfl) j

/-- **The end of the transaction** settles no span. -/
theorem draft?_finish (result name : Option String) (now : Instant) :
    (t.finish result name now).1.draft? i = t.draft? i := by
  cases hended : t.ended with
  | true => simp [finish, hended]
  | false =>
    rw [finish_of_not_ended hended]
    exact (draft?_forgetContext _).trans
      (draft?_reportAll (t := t.closeAtEnd result name) t.buffer.slot.toList)

/-- A span that is opened takes the next place, and no other changes. -/
theorem draft?_openSpan {d : Span.Draft} (hd : t.draft? i = some d) (b : SpanBuilder)
    (parent : Option Nat) (id : SpanId) (now : Instant) :
    (t.openSpan b parent id now).draft? i = some d := by
  obtain ⟨s, hs, rfl⟩ := Option.map_eq_some_iff.mp hd
  have hlt : i < t.spans.size := (Array.getElem?_eq_some_iff.mp hs).1
  rw [draft?, openSpan, Array.getElem?_push_lt hlt, ← Array.getElem?_eq_getElem, hs]
  rfl

@[simp] theorem standIns_reportAll (l : List FinishedSpan) :
    (t.reportAll l).1.standIns = t.standIns := by
  obtain ⟨_, _, _, _, heq⟩ := t.reportAll_frame l
  rw [heq]

@[simp] theorem standIns_offer (parent : Option Nat) (f : FinishedSpan) :
    (t.offer parent f).1.standIns = t.standIns := by
  obtain ⟨_, _, _, heq⟩ := t.offer_eq parent f
  rw [heq]

theorem standIns_forgetContext (t : Transaction) : t.forgetContext.standIns = t.standIns := by
  obtain ⟨_, heq⟩ := t.forgetContext_eq
  rw [heq]

theorem standIns_endSpan (j : Nat) (default : Outcome) (now : Instant) (frames : List Frame) :
    (t.endSpan j default now frames).1.standIns = t.standIns := by
  cases hlive : t.liveSpan? j with
  | none => simp only [endSpan, hlive]
  | some sd =>
    rw [endSpan_of_live hlive]
    simp only [standIns_reportAll, standIns_offer]
    rfl

theorem standIns_finish (result name : Option String) (now : Instant) :
    (t.finish result name now).1.standIns = t.standIns := by
  cases hended : t.ended with
  | true => simp [finish, hended]
  | false =>
    rw [finish_of_not_ended hended]
    exact (standIns_forgetContext _).trans
      (standIns_reportAll (t := t.closeAtEnd result name) t.buffer.slot.toList)

/-- The end of a stand-in marks it, and no other. -/
theorem standIns_endStandIn (j : Nat) (default : Outcome) (now : Instant) :
    (t.endStandIn j default now).standIns[i]? =
      t.standIns[i]?.map fun s => if j = i then { s with ended := true } else s := by
  have hmodify : (t.standIns.modify j ({ · with ended := true }))[i]? =
      t.standIns[i]?.map fun s => if j = i then { s with ended := true } else s := by
    rw [Array.getElem?_modify]
    split <;> simp
  cases hs : t.standIns[j]? with
  | none =>
    have hne : ∀ s ∈ t.standIns[i]?, (if j = i then { s with ended := true } else s) = s := by
      intro s hsi
      rw [if_neg]
      rintro rfl
      cases hs.symm.trans hsi
    simp only [endStandIn, hs]
    rw [Option.map_congr hne, Option.map_id']
  | some s =>
    cases hended : s.ended with
    | true =>
      have hsame : ∀ s ∈ t.standIns[i]?, (if j = i then { s with ended := true } else s) = s := by
        intro s' hs'
        split
        · rename_i hji
          subst hji
          obtain rfl := Option.some.inj (hs.symm.trans hs')
          rw [← hended]
        · rfl
      simp only [endStandIn, hs, hended, if_true]
      rw [Option.map_congr hsame, Option.map_id']
    | false =>
      simp only [endStandIn, hs, hended, Bool.false_eq_true, if_false]
      split <;> exact hmodify

end Transaction

end Telemetry
