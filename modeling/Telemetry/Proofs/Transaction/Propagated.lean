import Mathlib.Data.List.Perm.Subperm
import Telemetry.Proofs.Agent.Run
import Telemetry.Proofs.Transaction.Admission

/-!
# Spans that another service was told about

A span whose identifier was sent along with a call must not disappear from the report, for somebody
else names it as a parent. The mark that is set then stays until the span ends. It makes the span
neither eligible for merging nor short enough to be left out, so that it passes through the buffer
of its parent and is reported at once.

That nothing else is reported under its identifier takes a second invariant: the finished spans that
are held or were released come from different spans that have ended.

## Main definitions

* `Span.Known`: another service was told about the span, unless it has ended.
* `FinishedSpan.ids`, `Transaction.Sourced`.

## Main results

* `Transaction.Step.keepsKnown`: no step takes the mark away.
* `Transaction.isInvariant_sourced`.
* `Transaction.endSpan_propagated`: a marked span that ends is released at once, reported, and by
  itself.
-/

namespace Telemetry

/-! ### Finished spans -/

namespace FinishedSpan

variable {f : FinishedSpan} {before after : List FinishedSpan}

theorem eligible_of_propagated (h : f.propagated = true) : f.eligible = false := by
  simp [eligible, h]

theorem discardable_of_propagated (h : f.propagated = true) : f.discardable = false := by
  simp [discardable, h]

/-- What may not be merged is added as it is. -/
theorem Joins.perm_cons (h : Joins f before after) (hf : f.eligible = false) :
    after.Perm (f :: before) := by
  cases h with
  | alone hperm => exact hperm
  | merged s rest strategy he => exact absurd he (by simp [hf])

/-- The identifiers of finished spans. -/
def ids (l : List FinishedSpan) : List SpanId := l.map (·.record.id)

/-- Merging takes an identifier away. -/
theorem Joins.ids_subperm (h : Joins f before after) :
    (ids after).Subperm (f.record.id :: ids before) := by
  cases h with
  | alone hperm => exact (hperm.map _).subperm
  | merged s rest strategy he hbefore hafter =>
    have hafter : (ids after).Perm (ids (s.absorb f strategy :: rest)) := hafter.map _
    have hbefore : (ids before).Perm (ids (s :: rest)) := hbefore.map _
    have hsame : ids (s.absorb f strategy :: rest) = ids (s :: rest) := rfl
    rw [hsame] at hafter
    exact (hafter.trans hbefore.symm).subperm.trans (List.sublist_cons_self _ _).subperm

end FinishedSpan

/-- What may not be merged passes through a buffer. -/
theorem CompressionBuffer.mem_offer (settings : CompressionSettings) (b : CompressionBuffer)
    {f : FinishedSpan} (hf : f.eligible = false) : f ∈ (b.offer settings f).2 := by
  unfold offer
  split
  · exact List.mem_singleton_self f
  · simp [hf]

/-- Another service was told about the span, unless it has ended. -/
def Span.Known (s : Span) : Prop := ∀ d ∈ s.details, d.propagated = true

namespace Transaction

variable {t t' t'' : Transaction} {J K : Journal}

/-! ### The mark -/

/-- Spans that are known stay where they are, and stay known. -/
def KeepsKnown (t t' : Transaction) : Prop :=
  ∀ (i : Nat) (s : Span), t.spans[i]? = some s → s.Known →
    ∃ s', t'.spans[i]? = some s' ∧ s'.Known ∧ s'.id = s.id

theorem KeepsKnown.refl (t : Transaction) : KeepsKnown t t := fun _ s hs hknown =>
  ⟨s, hs, hknown, rfl⟩

theorem KeepsKnown.trans (h : KeepsKnown t t') (h' : KeepsKnown t' t'') : KeepsKnown t t'' := by
  intro i s hs hknown
  obtain ⟨s', hs', hknown', hid⟩ := h i s hs hknown
  obtain ⟨s'', hs'', hknown'', hid'⟩ := h' i s' hs' hknown'
  exact ⟨s'', hs'', hknown'', hid'.trans hid⟩

theorem keepsKnown_of_spans_eq (h : t'.spans = t.spans) : KeepsKnown t t' := by
  intro i s hs hknown
  exact ⟨s, h ▸ hs, hknown, rfl⟩

theorem keepsKnown_modifySpan {g : Span → Span} (hg : ∀ s, s.Known → (g s).Known)
    (hid : ∀ s, (g s).id = s.id) (i : Nat) : KeepsKnown t (t.modifySpan i g) := by
  intro j s hs hknown
  simp only [modifySpan, Array.getElem?_modify, hs]
  by_cases hij : i = j
  · exact ⟨g s, by simp [hij], hg s hknown, hid s⟩
  · exact ⟨s, by simp [hij], hknown, rfl⟩

theorem keepsKnown_reportAll (t : Transaction) (l : List FinishedSpan) :
    KeepsKnown t (t.reportAll l).1 := by
  obtain ⟨_, _, _, _, heq⟩ := t.reportAll_frame l
  rw [heq]
  exact keepsKnown_of_spans_eq rfl

theorem keepsKnown_offer (t : Transaction) (parent : Option Nat) (f : FinishedSpan) :
    KeepsKnown t (t.offer parent f).1 := by
  cases parent with
  | none => exact keepsKnown_of_spans_eq rfl
  | some p =>
    have hbuffer : ∀ b, KeepsKnown t (t.modifySpan p ({ · with buffer := b })) := fun b =>
      keepsKnown_modifySpan (g := ({ · with buffer := b })) (fun _ h => h) (fun _ => rfl) p
    exact (hbuffer _).trans (keepsKnown_of_spans_eq rfl)

theorem keepsKnown_endSpan (t : Transaction) (i : Nat) (default : Outcome) (now : Instant)
    (frames : List Frame) : KeepsKnown t (t.endSpan i default now frames).1 := by
  cases hlive : t.liveSpan? i with
  | none =>
    simp only [endSpan, hlive]
    exact .refl t
  | some sd =>
    rw [endSpan_of_live hlive]
    have hclosed : KeepsKnown t (t.closeSpan i) :=
      keepsKnown_modifySpan (g := ({ · with details := none, buffer := ⟨none, true⟩ }))
        (fun _ _ _ hd => by cases hd) (fun _ => rfl) i
    exact ((hclosed.trans (keepsKnown_reportAll _ _)).trans (keepsKnown_offer _ _ _)).trans
      (keepsKnown_reportAll _ _)

theorem keepsKnown_finish (t : Transaction) (result name : Option String) (now : Instant) :
    KeepsKnown t (t.finish result name now).1 := by
  cases hended : t.ended with
  | true =>
    simp only [finish, hended, if_true]
    exact .refl t
  | false =>
    rw [finish_of_not_ended hended]
    obtain ⟨details, heq⟩ := forgetContext_eq
      ((t.closeAtEnd result name).reportAll t.buffer.slot.toList).1
    dsimp only
    rw [heq]
    have hreported := keepsKnown_reportAll (t.closeAtEnd result name) t.buffer.slot.toList
    exact (keepsKnown_of_spans_eq rfl).trans (hreported.trans (keepsKnown_of_spans_eq rfl))

/-- **No step takes the mark away.** -/
theorem Step.keepsKnown (h : Step t J t') : KeepsKnown t t' := by
  cases h with
  | idle => exact .refl t
  | openSpan e b parent id now =>
    intro i s hs hknown
    have hlt : i < t.spans.size := (Array.getElem?_eq_some_iff.mp hs).1
    refine ⟨s, ?_, hknown, rfl⟩
    simpa [Transaction.openSpan, Array.getElem?_push, hlt.ne] using hs
  | openStandIn => exact keepsKnown_of_spans_eq rfl
  | revise g =>
    unfold Transaction.revise
    split <;> exact keepsKnown_of_spans_eq rfl
  | reviseSpan i g hpropagated =>
    have hknown : ∀ s : Span, s.Known → Span.Known { s with details := s.details.map g } := by
      intro s hknown d hd
      obtain ⟨d', hd', rfl⟩ := Option.map_eq_some_iff.mp hd
      exact hpropagated d' (hknown d' hd')
    exact keepsKnown_modifySpan hknown (fun _ => rfl) i
  | reviseStandIn => exact keepsKnown_of_spans_eq rfl
  | withCaller => exact keepsKnown_of_spans_eq rfl
  | endStandIn i default now =>
    rcases t.endStandIn_eq i default now with heq | ⟨stats, overflowed, heq⟩ <;> rw [heq] <;>
      exact keepsKnown_of_spans_eq rfl
  | endSpan i default now frames => exact t.keepsKnown_endSpan i default now frames
  | finish result name now => exact t.keepsKnown_finish result name now

/-- A call that is told about a span marks it. -/
theorem known_outboundOf {i : Nat} {s : Span} (hs : t.spans[i]? = some s) :
    ∃ s', (t.outboundOf i).1.spans[i]? = some s' ∧ s'.Known ∧ s'.id = s.id := by
  refine ⟨{ s with details := s.details.map ({ · with propagated := true }) }, ?_, ?_, rfl⟩
  · simp only [outboundOf, hs, reviseSpan, modifySpan, Array.getElem?_modify, if_true,
      Option.map_some]
  · intro d hd
    obtain ⟨d', -, rfl⟩ := Option.map_eq_some_iff.mp hd
    rfl

/-! ### Where finished spans come from -/

/-- Finished spans, held or released, come from different spans that have ended. -/
structure Sourced (t : Transaction) (J : Journal) : Prop where
  nested : t.Nested
  ids : (FinishedSpan.ids (J.map (·.span) ++ t.held)).Subperm (t.endedOutlines.map (·.id))

theorem sourced_of_isNew (h : t.IsNew) : t.Sourced [] where
  nested := by simp [Nested, outlines, h.spans]
  ids := by simp [FinishedSpan.ids, held, h.spans, h.slot]

/-- A step adds at most the identifier of the span that it ends. -/
theorem Effect.ids_subperm (h : Effect t K t') (J : Journal)
    (hids : (FinishedSpan.ids (J.map (·.span) ++ t.held)).Subperm (t.endedOutlines.map (·.id))) :
    (FinishedSpan.ids ((J ++ K).map (·.span) ++ t'.held)).Subperm
      (t'.endedOutlines.map (·.id)) := by
  have hsplit : FinishedSpan.ids ((J ++ K).map (·.span) ++ t'.held) =
      FinishedSpan.ids (J.map (·.span)) ++ FinishedSpan.ids (K.map (·.span) ++ t'.held) := by
    simp [FinishedSpan.ids]
  have hbefore : FinishedSpan.ids (J.map (·.span) ++ t.held) =
      FinishedSpan.ids (J.map (·.span)) ++ FinishedSpan.ids t.held := by
    simp [FinishedSpan.ids]
  rw [hbefore] at hids
  rw [hsplit]
  cases h with
  | quiet hsame _ hheld =>
    have hperm : (FinishedSpan.ids t.held).Perm (FinishedSpan.ids (K.map (·.span) ++ t'.held)) :=
      hheld.map _
    rw [hsame.ended]
    exact (hperm.symm.append_left _).subperm.trans hids
  | opened o _ _ hended _ _ hK hheld =>
    rw [hended, hK, hheld]
    exact hids
  | ended o f _ _ _ hended _ hfinishes hjoins =>
    have hjoined := (List.subperm_append_left (FinishedSpan.ids (J.map (·.span)))).mpr
      hjoins.ids_subperm
    have hended : (t'.endedOutlines.map (·.id)).Perm (o.id :: t.endedOutlines.map (·.id)) :=
      hended.map _
    refine (hjoined.trans List.perm_middle.subperm).trans ?_
    rw [hfinishes.id]
    exact ((List.subperm_cons o.id).mpr hids).trans hended.symm.subperm

/-- **The invariant of sources.** -/
theorem isInvariant_sourced : IsInvariant Sourced where
  new := sourced_of_isNew
  step := by
    intro t t' J K hstep hov h
    have heffect := hstep.effect h.nested hov
    exact ⟨heffect.nested h.nested, heffect.ids_subperm J h.ids⟩

/-- Where identifiers differ, no two finished spans have the same. -/
theorem Sourced.nodup (h : t.Sourced J) (hids : (t.outlines.map (·.id)).Nodup) :
    (FinishedSpan.ids (J.map (·.span) ++ t.held)).Nodup := by
  have hended : (t.endedOutlines.map (·.id)).Nodup :=
    hids.sublist ((List.filter_sublist.map _).map _)
  obtain ⟨ids, hperm, hsub⟩ := h.ids
  exact hperm.nodup_iff.mp (hended.sublist hsub)

/-! ### The end of a span that is known -/

variable {i : Nat} {s : Span} {d : SpanDetails} {default : Outcome} {now : Instant}
  {frames : List Frame}

/-- **A span that another service was told about** is released when it ends: it is reported, and
everything else that is held or released by then is as it was before. -/
theorem endSpan_propagated (hn : t.Nested) (hlive : t.liveSpan? i = some (s, d))
    (hd : d.propagated = true) (hov : (t.endSpan i default now frames).1.overflowed = false) :
    let f := t.finished s d default now frames
    f ∈ t.leaving i default now frames ∧ t.release f = ⟨f, true⟩ ∧
      (t.leaving i default now frames ++ (t.endSpan i default now frames).1.held).Perm
        (f :: t.held) := by
  intro f
  have hpropagated : f.propagated = true := hd
  have heligible : f.eligible = false := FinishedSpan.eligible_of_propagated hpropagated
  have hs : t.spans[i]? = some s := (liveSpan?_eq_some_iff.mp hlive).1
  have houtlines := (perm_closeSpan hs (by
    simp [Span.ended, (liveSpan?_eq_some_iff.mp hlive).2])).1
  obtain ⟨-, stats, heq⟩ := endSpan_eq hlive hov
  have hleaving : t.leaving i default now frames =
      s.buffer.slot.toList ++ ((t.closeSpan i).offer s.parent f).2 := by
    simp only [leaving, hlive]
    rfl
  have hheld : (t.endSpan i default now frames).1.held =
      ((t.closeSpan i).offer s.parent f).1.held := by
    rw [heq]
    rfl
  refine ⟨?_, ?_, ?_⟩
  · rw [hleaving]
    exact List.mem_append_right _ (CompressionBuffer.mem_offer _ _ heligible)
  · simp [release, isTooShort, FinishedSpan.discardable_of_propagated hpropagated]
  · have hjoins : f.Joins (t.closeSpan i).held _ :=
      (t.closeSpan i).joins_offer ((hn.mayEnclose hs).congr houtlines)
    rw [hleaving, hheld, List.append_assoc]
    refine ((hjoins.perm_cons heligible).append_left _).trans ?_
    exact List.perm_middle.trans ((held_closeSpan hs).symm.cons f)

end Transaction

end Telemetry
