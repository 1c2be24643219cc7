import Telemetry.Proofs.Transaction.Chronicle
import Telemetry.Proofs.Transaction.Conservation
import Telemetry.Proofs.Transaction.Propagated

/-!
# A chronicle tells of every span that ended, once

What a chronicle says about a span can be found in the transaction, and whatever has ended in the
transaction is told. A span that may not be left out if it is short is not merged either, so that it
leaves the buffer of its parent as it is, and is reported.

Most steps end nothing. They leave alone what counts here, and new spans have not ended.

## Main definitions

* `Transaction.Rests`, `Transaction.Idles`: a step that ends no recorded span, or nothing at all.
* `Transaction.Recounted`: the chronicle and the transaction say the same.
* `Transaction.Told`: a step, and the moments of it.
* `Transaction.Chronicled`: all that is known of a transaction and its chronicle.

## Main results

* `Transaction.Recounted.rest`, `Transaction.Recounted.endSpan`, `Transaction.Recounted.finish`.
* `Transaction.Told.chronicled`: every step keeps all of it.
-/

namespace Telemetry

theorem FinishedSpan.eligible_of_discardable {f : FinishedSpan} (h : f.discardable = false) :
    f.eligible = false := by
  simp only [discardable] at h
  simp [eligible, h]

namespace Transaction

variable {t t' : Transaction} {C : Chronicle} {J : Journal} {i : Nat} {parent : Option Nat}
  {o : Span.Outline} {f : FinishedSpan} {default : Outcome} {now : Instant} {frames : List Frame}
  {result name : Option String}

/-! ### Steps that end nothing -/

/-- No recorded span ends, nor does the transaction. Spans stay where they are, with their buffers,
and new ones have not ended. -/
structure Rests (t t' : Transaction) : Prop where
  ended : t'.ended = t.ended
  buffer : t'.buffer = t.buffer
  kept : ∀ (i : Nat) (s : Span), t.spans[i]? = some s → ∃ s', t'.spans[i]? = some s' ∧
    s'.outline = s.outline ∧ s'.ended = s.ended ∧ s'.buffer = s.buffer
  fresh : ∀ (i : Nat) (s' : Span), t.spans[i]? = none → t'.spans[i]? = some s' →
    s'.ended = false ∧ s'.buffer = {}

/-- No stand-in ends either, and nothing is counted. -/
structure Idles (t t' : Transaction) : Prop extends Rests t t' where
  held : t'.held = t.held
  stats : t'.stats = t.stats
  overflowed : t'.overflowed = t.overflowed

theorem rests_of_eq (hended : t'.ended = t.ended) (hbuffer : t'.buffer = t.buffer)
    (hspans : t'.spans = t.spans) : Rests t t' where
  ended := hended
  buffer := hbuffer
  kept := fun i s hs => ⟨s, by rwa [hspans], rfl, rfl, rfl⟩
  fresh := fun i s' hnone hs' => by
    rw [hspans, hnone] at hs'
    cases hs'

theorem idles_of_eq (hended : t'.ended = t.ended) (hbuffer : t'.buffer = t.buffer)
    (hspans : t'.spans = t.spans) (hstats : t'.stats = t.stats)
    (hoverflowed : t'.overflowed = t.overflowed) : Idles t t' where
  toRests := rests_of_eq hended hbuffer hspans
  held := by rw [Transaction.held, hbuffer, hspans, Transaction.held]
  stats := hstats
  overflowed := hoverflowed

theorem Idles.refl (t : Transaction) : Idles t t := idles_of_eq rfl rfl rfl rfl rfl

theorem idles_modifySpan {g : Span → Span} (houtline : ∀ s, (g s).outline = s.outline)
    (hended : ∀ s, (g s).ended = s.ended) (hbuffer : ∀ s, (g s).buffer = s.buffer) (i : Nat) :
    Idles t (t.modifySpan i g) where
  ended := rfl
  buffer := rfl
  kept := fun j s hs => by
    simp only [modifySpan, Array.getElem?_modify, hs, Option.map_some]
    by_cases hij : i = j
    · exact ⟨g s, by rw [if_pos hij], houtline s, hended s, hbuffer s⟩
    · exact ⟨s, by rw [if_neg hij], rfl, rfl, rfl⟩
  fresh := fun j s' hnone hs' => by
    simp [modifySpan, Array.getElem?_modify, hnone] at hs'
  held := by
    simp only [Transaction.held, modifySpan, Array.toList_modify]
    congr 2
    exact map_modify_of_eq (fun s => by rw [hbuffer]) _ _
  stats := rfl
  overflowed := rfl

theorem idles_reviseSpan (i : Nat) (g : SpanDetails → SpanDetails) : Idles t (t.reviseSpan i g) :=
  idles_modifySpan (fun _ => by rfl) (fun s => by simp [Span.ended]) (fun _ => by rfl) i

theorem idles_revise (g : Details → Details) : Idles t (t.revise g) := by
  unfold Transaction.revise
  split
  · exact .refl t
  · exact idles_of_eq rfl rfl rfl rfl rfl

theorem idles_openSpan (b : SpanBuilder) (parent : Option Nat) (id : SpanId) (now : Instant) :
    Idles t (t.openSpan b parent id now) where
  ended := rfl
  buffer := rfl
  kept := fun i s hs => by
    have hlt : i < t.spans.size := (Array.getElem?_eq_some_iff.mp hs).1
    refine ⟨s, ?_, rfl, rfl, rfl⟩
    simpa [openSpan, Array.getElem?_push, hlt.ne] using hs
  fresh := fun i s' hnone hs' => by
    simp only [openSpan, Array.getElem?_push, hnone] at hs'
    split at hs'
    · obtain rfl := Option.some.inj hs'
      exact ⟨rfl, rfl⟩
    · cases hs'
  held := by simp [Transaction.held, openSpan]
  stats := rfl
  overflowed := rfl

theorem idles_outboundOf (i : Nat) : Idles t (t.outboundOf i).1 := by
  unfold outboundOf
  split
  · exact idles_reviseSpan i _
  · exact .refl t

theorem rests_endStandIn (i : Nat) (default : Outcome) (now : Instant) :
    Rests t (t.endStandIn i default now) := by
  rcases t.endStandIn_eq i default now with heq | ⟨stats, overflowed, heq⟩ <;> rw [heq] <;>
    exact rests_of_eq rfl rfl rfl

theorem Rests.bufferOf (h : Rests t t') (parent : Option Nat) :
    t'.bufferOf parent = t.bufferOf parent := by
  cases parent with
  | none => exact h.buffer
  | some i =>
    simp only [Transaction.bufferOf]
    cases hs : t.spans[i]? with
    | some s =>
      obtain ⟨s', hs', -, -, hbuffer⟩ := h.kept i s hs
      simp [hs', hbuffer]
    | none =>
      cases hs' : t'.spans[i]? with
      | none => rfl
      | some s' => simp [(h.fresh i s' hs hs').2]

/-! ### What a finished span says of its parent -/

theorem enclosingId_of_grows (h : Grows t t') (hid : t'.id = t.id) (hp : t.MayEnclose parent) :
    t'.enclosingId parent = t.enclosingId parent := by
  cases parent with
  | none => exact hid
  | some p =>
    obtain ⟨q, hq, -⟩ := hp p rfl
    obtain ⟨rest, hrest⟩ := h.outlines
    have hq' : t'.outlines[p]? = some q := by
      rw [← hrest, List.getElem?_append_left (List.getElem?_eq_some_iff.mp hq).1, hq]
    simp [enclosingId, hq, hq']

theorem Finishes.step (h : t.Finishes o f) (hp : t.MayEnclose o.parent) (hstep : Step t J t')
    (hov : t'.overflowed = false) : t'.Finishes o f where
  id := h.id
  leaf := h.leaf
  plain := h.plain
  transactionId := h.transactionId.trans (hstep.tallied hov).id.symm
  traceId := h.traceId.trans (hstep.tallied hov).traceId.symm
  parentId := h.parentId.trans (enclosingId_of_grows hstep.grows (hstep.tallied hov).id hp).symm

/-! ### The chronicle and the transaction -/

/-- The chronicle and the transaction say the same about what has ended. -/
structure Recounted (t : Transaction) (C : Chronicle) : Prop where
  /-- What is told has happened. -/
  told : ∀ {i parent f}, .ended i parent f ∈ C → ∃ s, t.spans[i]? = some s ∧ s.ended = true ∧
    s.parent = parent ∧ t.Finishes s.outline f
  /-- What has happened is told. A span that has ended holds nothing back. -/
  ended : ∀ {i : Nat} {s : Span}, t.spans[i]? = some s → s.ended = true →
    s.buffer.closed = true ∧ ∃ f, .ended i s.parent f ∈ C
  once : (C.filterMap (·.place?)).Nodup
  /-- What may not be left out is reported as it ended. -/
  passed : ∀ {i parent f}, .ended i parent f ∈ C → f.discardable = false →
    .left parent ⟨f, true⟩ ∈ C
  reported : t.ended = true →
    t.buffer.closed = true ∧ ∃ record, .reported record ∈ C ∧ record.id = t.id

theorem recounted_of_isNew (h : t.IsNew) : t.Recounted [] where
  told := fun hm => by cases hm
  ended := fun hs => by simp [h.spans] at hs
  once := List.nodup_nil
  passed := fun hm => by cases hm
  reported := fun hended => by simp [h.ended] at hended

theorem Recounted.rest (h : t.Recounted C) (hn : t.Nested) (hrest : Rests t t')
    (hstep : Step t J t') (hov : t'.overflowed = false) : t'.Recounted C where
  told := fun hm => by
    obtain ⟨s, hs, hended, rfl, hf⟩ := h.told hm
    obtain ⟨s', hs', houtline, hended', -⟩ := hrest.kept _ s hs
    refine ⟨s', hs', hended'.trans hended, congrArg Span.Outline.parent houtline, ?_⟩
    rw [houtline]
    exact hf.step (hn.mayEnclose hs) hstep hov
  ended := fun {i s'} hs' hended => by
    cases hs : t.spans[i]? with
    | none =>
      rw [(hrest.fresh i s' hs hs').1] at hended
      cases hended
    | some s =>
      obtain ⟨s'', hs'', houtline, hended'', hbuffer⟩ := hrest.kept i s hs
      obtain rfl := Option.some.inj (hs'.symm.trans hs'')
      have hparent : s'.parent = s.parent := congrArg Span.Outline.parent houtline
      rw [hbuffer, hparent]
      exact h.ended hs (hended''.symm.trans hended)
  once := h.once
  passed := h.passed
  reported := fun hended => by
    obtain ⟨hclosed, record, hm, hid⟩ := h.reported (hrest.ended.symm.trans hended)
    exact ⟨hrest.buffer ▸ hclosed, record, hm, hid.trans (hstep.tallied hov).id.symm⟩

/-! ### The end of a span -/

/-- A span that is there while others end: it stays where it is, and does not begin anew; its buffer
stays closed once it is. -/
theorem exists_span_offer {s : Span} (hs : t.spans[i]? = some s) (parent : Option Nat)
    (f : FinishedSpan) : ∃ s', (t.offer parent f).1.spans[i]? = some s' ∧
      s'.outline = s.outline ∧ s'.ended = s.ended ∧ s'.buffer.closed = s.buffer.closed := by
  cases parent with
  | none => exact ⟨s, hs, rfl, rfl, rfl⟩
  | some p =>
    simp only [Transaction.offer, setBuffer, modifySpan, Array.getElem?_modify, hs,
      Option.map_some]
    by_cases hp : p = i
    · subst hp
      refine ⟨_, if_pos rfl, rfl, rfl, ?_⟩
      rw [CompressionBuffer.closed_offer, Transaction.bufferOf, hs]
      rfl
    · exact ⟨s, if_neg hp, rfl, rfl, rfl⟩

theorem closed_buffer_offer (t : Transaction) (parent : Option Nat) (f : FinishedSpan) :
    (t.offer parent f).1.buffer.closed = t.buffer.closed := by
  cases parent with
  | none => exact CompressionBuffer.closed_offer _ _ _
  | some p => rfl

theorem exists_span_closeSpan {s : Span} (hs : t.spans[i]? = some s) (j : Nat) :
    ∃ s', (t.closeSpan j).spans[i]? = some s' ∧ s'.outline = s.outline ∧
      s'.ended = (s.ended || j = i) ∧ s'.buffer.closed = (s.buffer.closed || j = i) := by
  simp only [closeSpan, modifySpan, Array.getElem?_modify, hs, Option.map_some]
  by_cases hj : j = i
  · exact ⟨_, if_pos hj, rfl, by simp [Span.ended, hj], by simp [hj]⟩
  · exact ⟨s, if_neg hj, rfl, by simp [hj], by simp [hj]⟩

/-- What has become of a span when another one, or it, has ended. -/
theorem exists_span_endSpan {s s₀ : Span} {d : SpanDetails} (hs : t.spans[i]? = some s) {j : Nat}
    (hlive : t.liveSpan? j = some (s₀, d))
    (hov : (t.endSpan j default now frames).1.overflowed = false) :
    ∃ s', (t.endSpan j default now frames).1.spans[i]? = some s' ∧ s'.outline = s.outline ∧
      s'.ended = (s.ended || j = i) ∧ s'.buffer.closed = (s.buffer.closed || j = i) := by
  obtain ⟨-, stats, heq⟩ := endSpan_eq hlive hov
  obtain ⟨s₁, hs₁, houtline₁, hended₁, hclosed₁⟩ := exists_span_closeSpan hs j
  obtain ⟨s₂, hs₂, houtline₂, hended₂, hclosed₂⟩ :=
    exists_span_offer hs₁ s₀.parent (t.finished s₀ d default now frames)
  refine ⟨s₂, ?_, houtline₂.trans houtline₁, hended₂.trans hended₁, hclosed₂.trans hclosed₁⟩
  rw [heq]
  exact hs₂

theorem size_spans_endSpan {s₀ : Span} {d : SpanDetails} {j : Nat}
    (hlive : t.liveSpan? j = some (s₀, d))
    (hov : (t.endSpan j default now frames).1.overflowed = false) :
    (t.endSpan j default now frames).1.spans.size = t.spans.size := by
  obtain ⟨-, stats, heq⟩ := endSpan_eq hlive hov
  rw [heq]
  cases hp : s₀.parent <;> simp [tally, offer, setBuffer, closeSpan, modifySpan]

/-- The moments of the end of a span: it is told, and nothing else of its kind. -/
theorem mem_chronicleOfSpan {s : Span} {d : SpanDetails} (hlive : t.liveSpan? i = some (s, d))
    {j : Nat} : .ended j parent f ∈ t.chronicleOfSpan i default now frames ↔
      j = i ∧ parent = s.parent ∧ f = t.finished s d default now frames := by
  simp [chronicleOfSpan, hlive, Chronicle.leaving]

theorem place_chronicleOfSpan {s : Span} {d : SpanDetails}
    (hlive : t.liveSpan? i = some (s, d)) :
    (t.chronicleOfSpan i default now frames).filterMap (·.place?) = [i] := by
  have hleaving : ∀ (p : Option Nat) (J : Journal),
      (Chronicle.leaving p J).filterMap (·.place?) = [] := by
    intro p J
    simp [Chronicle.leaving, Moment.place?]
  simp only [chronicleOfSpan, hlive, List.filterMap_append, List.filterMap_cons, hleaving]
  rfl

/-- **The end of a span** is told. -/
theorem Recounted.endSpan (h : t.Recounted C) (hn : t.Nested)
    (hov : (t.endSpan i default now frames).1.overflowed = false) :
    (t.endSpan i default now frames).1.Recounted
      (C ++ t.chronicleOfSpan i default now frames) := by
  cases hlive : t.liveSpan? i with
  | none =>
    simpa only [Transaction.endSpan, chronicleOfSpan, hlive, List.append_nil] using h
  | some sd =>
    obtain ⟨s, d⟩ := sd
    obtain ⟨hs, hd⟩ := liveSpan?_eq_some_iff.mp hlive
    have hstep := Step.endSpan (t := t) i default now frames
    have hfresh : ∀ {parent f}, .ended i parent f ∉ C := by
      intro parent f hm
      obtain ⟨s', hs', hended, -⟩ := h.told hm
      obtain rfl := Option.some.inj (hs.symm.trans hs')
      simp [Span.ended, hd] at hended
    constructor
    · intro j parent f hm
      rcases List.mem_append.mp hm with hm | hm
      · obtain ⟨s₁, hs₁, hended, rfl, hf⟩ := h.told hm
        obtain ⟨s₂, hs₂, houtline, hended₂, -⟩ := exists_span_endSpan hs₁ hlive hov
        refine ⟨s₂, hs₂, by simp [hended₂, hended], congrArg Span.Outline.parent houtline, ?_⟩
        rw [houtline]
        exact hf.step (hn.mayEnclose hs₁) hstep hov
      · obtain ⟨rfl, rfl, rfl⟩ := (mem_chronicleOfSpan hlive).mp hm
        obtain ⟨s₂, hs₂, houtline, hended₂, -⟩ := exists_span_endSpan hs hlive hov
        refine ⟨s₂, hs₂, by simp [hended₂], congrArg Span.Outline.parent houtline, ?_⟩
        rw [houtline]
        exact (finishes_finished s d default now frames).step (hn.mayEnclose hs) hstep hov
    · intro j s' hs' hended
      have hlt : j < t.spans.size := by
        rw [← size_spans_endSpan hlive hov]
        exact (Array.getElem?_eq_some_iff.mp hs').1
      obtain ⟨s₂, hs₂, houtline, hended₂, hclosed⟩ :=
        exists_span_endSpan (Array.getElem?_eq_getElem hlt) hlive hov
      obtain rfl := Option.some.inj (hs'.symm.trans hs₂)
      have hparent : s'.parent = (t.spans[j]).parent := congrArg Span.Outline.parent houtline
      by_cases hj : i = j
      · subst hj
        refine ⟨by simp [hclosed], t.finished s d default now frames,
          List.mem_append_right _ ?_⟩
        refine (mem_chronicleOfSpan hlive).mpr ⟨rfl, ?_, rfl⟩
        rw [hparent, Option.some.inj ((Array.getElem?_eq_getElem hlt).symm.trans hs)]
      · obtain ⟨hclosed', f, hm⟩ := h.ended (Array.getElem?_eq_getElem hlt)
          (by simpa [hended₂, hj] using hended)
        exact ⟨by simp [hclosed, hclosed'], f, List.mem_append_left _ (hparent ▸ hm)⟩
    · rw [List.filterMap_append, place_chronicleOfSpan hlive]
      refine List.nodup_append.mpr
        ⟨h.once, List.nodup_cons.mpr ⟨List.not_mem_nil, .nil⟩, fun j hj k hk => ?_⟩
      obtain rfl := List.mem_singleton.mp hk
      rintro rfl
      obtain ⟨m, hm, hplace⟩ := List.mem_filterMap.mp hj
      cases m with
      | ended i' parent f =>
        obtain rfl := Option.some.inj hplace
        exact hfresh hm
      | left | reported | tracked => cases hplace
    · intro j parent f hm hf
      rcases List.mem_append.mp hm with hm | hm
      · exact List.mem_append_left _ (h.passed hm hf)
      · obtain ⟨rfl, rfl, rfl⟩ := (mem_chronicleOfSpan hlive).mp hm
        refine List.mem_append_right _ ?_
        have hrelease : t.release (t.finished s d default now frames) =
            ⟨t.finished s d default now frames, true⟩ := by
          simp [release, isTooShort, hf]
        have hpassed := CompressionBuffer.mem_offer t.limits.compression
          ((t.closeSpan j).bufferOf s.parent) (FinishedSpan.eligible_of_discardable hf)
        simp only [chronicleOfSpan, hlive]
        refine List.mem_append_right _ (List.mem_cons_of_mem _ ?_)
        rw [← hrelease]
        exact List.mem_map_of_mem (List.mem_map_of_mem hpassed)
    · intro hended
      obtain ⟨-, stats, heq⟩ := endSpan_eq hlive hov
      obtain ⟨buffer, spans, overflowed, hoffer⟩ :=
        (t.closeSpan i).offer_eq s.parent (t.finished s d default now frames)
      have hended' : t.ended = true := by
        rw [heq, hoffer] at hended
        exact hended
      obtain ⟨hclosed, record, hm, hid⟩ := h.reported hended'
      refine ⟨?_, record, List.mem_append_left _ hm, hid.trans (hstep.tallied hov).id.symm⟩
      rw [heq]
      exact (closed_buffer_offer _ _ _).trans hclosed

/-! ### The end of the transaction -/

/-- **The end of the transaction** is told. -/
theorem Recounted.finish (h : t.Recounted C) (hn : t.Nested)
    (hov : (t.finish result name now).1.overflowed = false) :
    (t.finish result name now).1.Recounted (C ++ t.chronicleAtEnd result name now) := by
  cases hended : t.ended with
  | true =>
    simpa only [Transaction.finish, chronicleAtEnd, hended, if_true, List.append_nil] using h
  | false =>
    have hstep := Step.finish (t := t) result name now
    obtain ⟨-, details, stats, heq, -⟩ := finish_eq hended hov
    have hspans : (t.finish result name now).1.spans = t.spans := by
      rw [heq]
      rfl
    have hnone : ∀ {j parent f}, .ended j parent f ∉ t.chronicleAtEnd result name now := by
      intro j parent f hm
      simp [chronicleAtEnd, hended, Chronicle.leaving] at hm
    have hplaces : (t.chronicleAtEnd result name now).filterMap (·.place?) = [] := by
      refine List.filterMap_eq_nil_iff.mpr fun m hm => ?_
      cases m with
      | ended => exact absurd hm hnone
      | left | reported | tracked => rfl
    constructor
    · intro j parent f hm
      obtain ⟨s, hs, hended, rfl, hf⟩ :=
        h.told ((List.mem_append.mp hm).resolve_right hnone)
      exact ⟨s, hspans ▸ hs, hended, rfl, hf.step (hn.mayEnclose hs) hstep hov⟩
    · intro j s hs hended
      rw [hspans] at hs
      obtain ⟨hclosed, f, hm⟩ := h.ended hs hended
      exact ⟨hclosed, f, List.mem_append_left _ hm⟩
    · rw [List.filterMap_append, hplaces, List.append_nil]
      exact h.once
    · intro j parent f hm hf
      exact List.mem_append_left _
        (h.passed ((List.mem_append.mp hm).resolve_right hnone) hf)
    · intro _
      have htold : .reported (((t.closeAtEnd result name).reportAll t.buffer.slot.toList).1.toRecord
          now) ∈ t.chronicleAtEnd result name now := by
        simp [chronicleAtEnd, hended]
      refine ⟨by rw [heq]; rfl, _, List.mem_append_right _ htold, ?_⟩
      obtain ⟨_, _, _, _, hreport⟩ :=
        (t.closeAtEnd result name).reportAll_frame t.buffer.slot.toList
      rw [hreport]
      exact (hstep.tallied hov).id.symm

/-! ### Every step -/

/-- A stand-in is no part of this. -/
theorem Recounted.tracked (h : t.Recounted C) (d : Duration) : t.Recounted (C ++ [.tracked d]) := by
  have hmem : ∀ {i parent f}, .ended i parent f ∈ C ++ [.tracked d] → .ended i parent f ∈ C :=
    fun hm => (List.mem_append.mp hm).resolve_right (by simp)
  refine ⟨fun hm => h.told (hmem hm), fun hs hended => ?_, ?_, fun hm hf => ?_, fun hended => ?_⟩
  · obtain ⟨hclosed, f, hf⟩ := h.ended hs hended
    exact ⟨hclosed, f, List.mem_append_left _ hf⟩
  · have hnone : [Moment.tracked d].filterMap (·.place?) = [] := rfl
    rw [List.filterMap_append, hnone, List.append_nil]
    exact h.once
  · exact List.mem_append_left _ (h.passed (hmem hm) hf)
  · obtain ⟨hclosed, record, hm, hid⟩ := h.reported hended
    exact ⟨hclosed, record, List.mem_append_left _ hm, hid⟩

/-- A step of a transaction, and the moments of it. -/
inductive Told (t : Transaction) : Chronicle → Transaction → Prop
  | idle {t' : Transaction} (hidle : Idles t t') (hstep : Step t [] t') : Told t [] t'
  | endStandIn (i : Nat) (default : Outcome) (now : Instant) :
      Told t (t.chronicleOfStandIn i now) (t.endStandIn i default now)
  | endSpan (i : Nat) (default : Outcome) (now : Instant) (frames : List Frame) :
      Told t (t.chronicleOfSpan i default now frames) (t.endSpan i default now frames).1
  | finish (result name : Option String) (now : Instant) :
      Told t (t.chronicleAtEnd result name now) (t.finish result name now).1

theorem Told.step {K : Chronicle} (h : Told t K t') : Step t K.journal t' := by
  cases h with
  | idle _ hstep => exact hstep
  | endStandIn i default now =>
    rw [journal_chronicleOfStandIn]
    exact .endStandIn i default now
  | endSpan i default now frames =>
    rw [journal_chronicleOfSpan]
    exact .endSpan i default now frames
  | finish result name now =>
    rw [journal_chronicleAtEnd]
    exact .finish result name now

/-- The chronicle tells what becomes of every span: each is accounted for, what leaves the buffers
follows the law, and what has ended is told. -/
structure Chronicled (t : Transaction) (C : Chronicle) : Prop where
  conserved : t.Conserved C.journal
  segmented : t.Segmented C
  recounted : t.Recounted C

theorem chronicled_of_isNew (h : t.IsNew) : t.Chronicled [] := by
  have hslot : ∀ parent, (t.bufferOf parent).slot = none := by
    intro parent
    cases parent with
    | none => exact h.slot
    | some i => simp [bufferOf, h.spans]
  refine ⟨conserved_of_isNew h, ⟨fun parent => ?_, fun parent => ?_, Chronicle.orderly_nil⟩,
    recounted_of_isNew h⟩
  · exact ⟨fun _ => hslot parent, by simp [hslot]⟩
  · rw [hslot]
    exact ⟨[], rfl, .nil⟩

/-- **A chronicle goes on with every step.** -/
theorem Told.chronicled {K : Chronicle} (h : Told t K t') (hov : t'.overflowed = false)
    (hc : t.Chronicled C) : t'.Chronicled (C ++ K) := by
  have hn := hc.conserved.nested
  refine ⟨?_, ?_, ?_⟩
  · rw [Chronicle.journal_append]
    exact isInvariant_conserved.step h.step hov hc.conserved
  · cases h with
    | idle hidle =>
      rw [List.append_nil]
      exact hc.segmented.congr hidle.bufferOf
    | endStandIn i default now =>
      have hsame := hc.segmented.congr (rests_endStandIn i default now).bufferOf
      rcases t.chronicleOfStandIn_cases i now with heq | ⟨d, heq⟩ <;> rw [heq]
      · rwa [List.append_nil]
      · exact hsame.tracked d
    | endSpan => exact hc.segmented.endSpan hn hov
    | finish => exact hc.segmented.finish hov
  · cases h with
    | idle hidle hstep =>
      rw [List.append_nil]
      exact hc.recounted.rest hn hidle.toRests hstep hov
    | endStandIn i default now =>
      have hsame := hc.recounted.rest hn (rests_endStandIn i default now)
        (.endStandIn i default now) hov
      rcases t.chronicleOfStandIn_cases i now with heq | ⟨d, heq⟩ <;> rw [heq]
      · rwa [List.append_nil]
      · exact hsame.tracked d
    | endSpan => exact hc.recounted.endSpan hn hov
    | finish => exact hc.recounted.finish hn hov

end Transaction

end Telemetry
