import Mathlib.Data.List.Perm.Basic
import Telemetry.Proofs.Compression.Segmentation
import Telemetry.Proofs.Transaction.Release

/-!
# What one step does to a transaction

Of a span only its outline matters here, which is what is settled when it is opened, and whether it
has ended. Finished spans are held by the buffers until they are released; a span that ends joins
them, by itself or merged into one of them. In these terms the many operations on a transaction come
down to three effects.

A buffer is found by the place of the span that it belongs to. A span that ended beneath a place
that does not exist would be lost, so effects are told of transactions whose spans lie beneath one
another.

## Main definitions

* `Span.Outline`, `Transaction.outlines`, `Transaction.held`.
* `Transaction.Nested`: every span lies beneath one that may enclose it.
* `FinishedSpan.Joins`: a span is added to those that are held.
* `Transaction.Step`, `Transaction.Effect`.

## Main results

* `CompressionBuffer.joins_offer`: a buffer takes what it is offered.
* `Transaction.Step.effect`: every step has one of the effects.
* `Transaction.Step.counters`: the counters follow the releases.
-/

namespace Telemetry

/-! ### Outlines and held spans -/

/-- What is settled about a span when it is opened. -/
structure Span.Outline where
  id : SpanId
  leaf : Bool
  parent : Option Nat
  deriving DecidableEq

/-- The outline of a span. -/
def Span.outline (s : Span) : Span.Outline := ⟨s.id, s.leaf, s.parent⟩

/-- A change at one place, seen from that place. -/
theorem exists_modify_eq {α : Type} {l : List α} {i : Nat} {x : α} (h : l[i]? = some x) :
    ∃ A B, l = A ++ x :: B ∧ ∀ f, l.modify i f = A ++ f x :: B := by
  obtain ⟨hi, rfl⟩ := List.getElem?_eq_some_iff.mp h
  refine ⟨l.take i, l.drop (i + 1), ?_, fun f => List.modify_eq_take_cons_drop hi⟩
  rw [List.getElem_cons_drop hi, List.take_append_drop]

/-- A change that does not show in a projection. -/
theorem map_modify_of_eq {α β : Type} {g : α → β} {f : α → α} (h : ∀ x, g (f x) = g x)
    (l : List α) (i : Nat) : (l.modify i f).map g = l.map g := by
  refine List.ext_getElem? fun j => ?_
  rw [List.getElem?_map, List.getElem?_modify, List.getElem?_map]
  cases l[j]? with
  | none => rfl
  | some x => by_cases hij : i = j <;> simp [hij, h]

theorem map_filter_eq {α β : Type} (p : α → Bool) (g : α → β) (l : List α) :
    (l.filter p).map g = ((l.map fun x => (p x, g x)).filter (·.1)).map (·.2) := by
  simp [List.filter_map, Function.comp_def]

/-- A change that does not show in a projection, and does not decide what is projected. -/
theorem map_filter_modify_of_eq {α β : Type} {p : α → Bool} {g : α → β} {f : α → α}
    (hp : ∀ x, p (f x) = p x) (hg : ∀ x, g (f x) = g x) (l : List α) (i : Nat) :
    ((l.modify i f).filter p).map g = (l.filter p).map g := by
  rw [map_filter_eq, map_filter_eq p g l, map_modify_of_eq fun x => by rw [hp, hg]]

namespace FinishedSpan

/-- A finished span is added to others: it stands among them afterwards, or it was merged into one
of them. -/
inductive Joins (child : FinishedSpan) (before after : List FinishedSpan) : Prop
  | alone (h : after.Perm (child :: before))
  | merged (s : FinishedSpan) (rest : List FinishedSpan) (strategy : CompressionStrategy)
      (heligible : child.eligible = true) (hbefore : before.Perm (s :: rest))
      (hafter : after.Perm (s.absorb child strategy :: rest))

variable {child : FinishedSpan} {before before' after after' : List FinishedSpan}

theorem Joins.perm (h : Joins child before after) (hbefore : before'.Perm before)
    (hafter : after'.Perm after) : Joins child before' after' := by
  cases h with
  | alone h => exact .alone (hafter.trans (h.trans (hbefore.symm.cons child)))
  | merged s rest strategy he hb ha =>
    exact .merged s rest strategy he (hbefore.trans hb) (hafter.trans ha)

theorem Joins.append (h : Joins child before after) (l : List FinishedSpan) :
    Joins child (before ++ l) (after ++ l) := by
  cases h with
  | alone h => exact .alone (h.append_right l)
  | merged s rest strategy he hb ha =>
    exact .merged s (rest ++ l) strategy he (hb.append_right l) (ha.append_right l)

/-- What holds of the child and is not lost by merging holds of all. -/
theorem Joins.forall {P : FinishedSpan → Prop} (h : Joins child before after)
    (habsorb : ∀ s ∈ before, ∀ strategy, P s → P (s.absorb child strategy)) (hchild : P child)
    (hbefore : ∀ s ∈ before, P s) : ∀ s ∈ after, P s := by
  intro s hs
  cases h with
  | alone h =>
    rcases List.mem_cons.mp (h.mem_iff.mp hs) with rfl | hs
    · exact hchild
    · exact hbefore s hs
  | merged m rest strategy he hb ha =>
    rcases List.mem_cons.mp (ha.mem_iff.mp hs) with rfl | hs
    · have hm : m ∈ before := hb.mem_iff.mpr List.mem_cons_self
      exact habsorb m hm strategy (hbefore m hm)
    · exact hbefore s (hb.mem_iff.mpr (List.mem_cons_of_mem _ hs))

/-- One more span is counted. -/
theorem Joins.sum_count (h : Joins child before after) (plain : child.composite = none) :
    (after.map (·.count)).sum = (before.map (·.count)).sum + 1 := by
  cases h with
  | alone h =>
    rw [(h.map _).sum_nat, List.map_cons, List.sum_cons, count, plain, Nat.add_comm]
  | merged m rest strategy he hb ha =>
    rw [(hb.map _).sum_nat, (ha.map _).sum_nat, List.map_cons, List.map_cons, List.sum_cons,
      List.sum_cons]
    simp only [count, absorb]
    omega

theorem leaf_of_eligible {s : FinishedSpan} (h : s.eligible = true) : s.leaf = true := by
  simp only [eligible, Bool.and_eq_true] at h
  exact h.1.1.1

end FinishedSpan

namespace CompressionBuffer

/-- **A buffer takes what it is offered**, and keeps it or passes it on. -/
theorem joins_offer (settings : CompressionSettings) (b : CompressionBuffer)
    (child : FinishedSpan) : child.Joins b.slot.toList
      ((b.offer settings child).2 ++ (b.offer settings child).1.slot.toList) := by
  rcases b.offer_cases settings child with
    ⟨-, heq⟩ | heq | ⟨-, heq⟩ | ⟨s, strategy, he, hs, -, heq⟩ <;> simp only [heq]
  · exact .alone (.refl _)
  · exact .alone (by simp)
  · exact .alone (by simp)
  · exact .merged s [] strategy he (by simp [hs]) (.refl _)

end CompressionBuffer

namespace Transaction

variable {t t' : Transaction} {i : Nat} {parent : Option Nat} {s : Span} {d : SpanDetails}
  {f : FinishedSpan} {default : Outcome} {now : Instant} {frames : List Frame}

/-- The outlines of all spans, by place. -/
def outlines (t : Transaction) : List Span.Outline := t.spans.toList.map (·.outline)

theorem getElem?_outlines_eq_some_iff {o : Span.Outline} :
    t.outlines[i]? = some o ↔ ∃ s, t.spans[i]? = some s ∧ s.outline = o := by
  rw [outlines, List.getElem?_map, Array.getElem?_toList, Option.map_eq_some_iff]

/-- The outlines of the spans that have not ended. -/
def liveOutlines (t : Transaction) : List Span.Outline :=
  (t.spans.toList.filter (!·.ended)).map (·.outline)

/-- The outlines of the spans that have ended. -/
def endedOutlines (t : Transaction) : List Span.Outline :=
  (t.spans.toList.filter (·.ended)).map (·.outline)

/-- The finished spans that the buffers hold. -/
def held (t : Transaction) : List FinishedSpan :=
  t.buffer.slot.toList ++ (t.spans.toList.map (·.buffer.slot.toList)).flatten

/-- Spans are recorded beneath the span at this place, or beneath the transaction if there is no
place. -/
def MayEnclose (t : Transaction) (parent : Option Nat) : Prop :=
  ∀ p ∈ parent, ∃ o, t.outlines[p]? = some o ∧ o.leaf = false

/-- Every span lies beneath one that may enclose it. -/
def Nested (t : Transaction) : Prop := ∀ o ∈ t.outlines, t.MayEnclose o.parent

/-- The identifier of what encloses the spans beneath a place. -/
def enclosingId (t : Transaction) (parent : Option Nat) : SpanId :=
  ((parent.bind (t.outlines[·]?)).map (·.id)).getD t.id

/-- How many stand-ins there are for spans that were refused for the budget. -/
def refusals (t : Transaction) : Nat :=
  t.standIns.toList.countP (·.reason = .maxSpansExceeded)

/-- Two transactions have the same spans, ended or not, and hold the same finished ones. -/
structure SameSpans (t t' : Transaction) : Prop where
  outlines : t'.outlines = t.outlines
  live : t'.liveOutlines = t.liveOutlines
  ended : t'.endedOutlines = t.endedOutlines

theorem sameSpans_modifySpan {g : Span → Span} (houtline : ∀ s, (g s).outline = s.outline)
    (hended : ∀ s, (g s).ended = s.ended) (i : Nat) : SameSpans t (t.modifySpan i g) where
  outlines := by
    simp only [Transaction.outlines, modifySpan, Array.toList_modify]
    exact map_modify_of_eq houtline _ _
  live := by
    simp only [liveOutlines, modifySpan, Array.toList_modify]
    exact map_filter_modify_of_eq (fun s => by rw [hended]) houtline _ _
  ended := by
    simp only [endedOutlines, modifySpan, Array.toList_modify]
    exact map_filter_modify_of_eq hended houtline _ _

theorem sameSpans_reviseSpan (i : Nat) (g : SpanDetails → SpanDetails) :
    SameSpans t (t.reviseSpan i g) :=
  sameSpans_modifySpan (fun _ => by rfl) (fun s => by simp [Span.ended]) i

theorem sameSpans_setBuffer (t : Transaction) (b : CompressionBuffer) :
    ∀ parent, SameSpans t (t.setBuffer b parent)
  | none => ⟨rfl, rfl, rfl⟩
  | some p => sameSpans_modifySpan (fun _ => by rfl) (fun _ => by rfl) p

theorem sameSpans_offer (t : Transaction) (parent : Option Nat) (f : FinishedSpan) :
    SameSpans t (t.offer parent f).1 := by
  obtain ⟨houtlines, hlive, hended⟩ := t.sameSpans_setBuffer
    ((t.bufferOf parent).offer t.limits.compression f).1 parent
  exact ⟨houtlines, hlive, hended⟩

theorem held_reviseSpan (i : Nat) (g : SpanDetails → SpanDetails) :
    (t.reviseSpan i g).held = t.held := by
  simp only [held, reviseSpan, modifySpan, Array.toList_modify]
  congr 2
  exact map_modify_of_eq (fun s => by rfl) _ _

/-- A span that ends goes over from one list to the other. -/
theorem perm_closeSpan (hs : t.spans[i]? = some s) (hlive : s.ended = false) :
    (t.closeSpan i).outlines = t.outlines ∧
      t.liveOutlines.Perm (s.outline :: (t.closeSpan i).liveOutlines) ∧
      (t.closeSpan i).endedOutlines.Perm (s.outline :: t.endedOutlines) := by
  obtain ⟨A, B, hspans, hmodify⟩ := exists_modify_eq (Array.getElem?_toList.trans hs)
  have hclosed : ∀ b, Span.ended { s with details := none, buffer := b } = true := fun _ => rfl
  refine ⟨?_, ?_, ?_⟩
  · simp only [outlines, closeSpan, modifySpan, Array.toList_modify]
    exact map_modify_of_eq (fun s => by rfl) _ _
  · simp only [liveOutlines, closeSpan, modifySpan, Array.toList_modify, hmodify]
    simp only [hspans, List.filter_append, List.filter_cons, hlive, hclosed, List.map_append]
    exact List.perm_middle
  · simp only [endedOutlines, closeSpan, modifySpan, Array.toList_modify, hmodify]
    simp only [hspans, List.filter_append, List.filter_cons, hlive, hclosed, List.map_append]
    exact List.perm_middle

/-- What the buffer of a span that ends held is held no more. -/
theorem held_closeSpan (hs : t.spans[i]? = some s) :
    t.held.Perm (s.buffer.slot.toList ++ (t.closeSpan i).held) := by
  obtain ⟨A, B, hspans, hmodify⟩ := exists_modify_eq (Array.getElem?_toList.trans hs)
  simp only [held, closeSpan, modifySpan, Array.toList_modify, hmodify]
  simp only [hspans, List.map_append, List.map_cons, List.flatten_append, List.flatten_cons,
    Option.toList_none, List.nil_append]
  refine .trans (List.Perm.append_left _ (List.perm_append_comm_assoc _ _ _)) ?_
  exact List.perm_append_comm_assoc _ _ _

/-- One buffer is exchanged for another. -/
theorem held_setBuffer (b : CompressionBuffer) {parent : Option Nat} (hp : t.MayEnclose parent) :
    ∃ rest, t.held.Perm ((t.bufferOf parent).slot.toList ++ rest) ∧
      (t.setBuffer b parent).held.Perm (b.slot.toList ++ rest) := by
  cases parent with
  | none => exact ⟨_, .refl _, .refl _⟩
  | some p =>
    obtain ⟨o, ho, -⟩ := hp p rfl
    obtain ⟨q, hq, -⟩ : ∃ q, t.spans.toList[p]? = some q ∧ q.outline = o := by
      rwa [outlines, List.getElem?_map, Option.map_eq_some_iff] at ho
    obtain ⟨A, B, hspans, hmodify⟩ := exists_modify_eq hq
    simp only [held, setBuffer, modifySpan, Array.toList_modify, hmodify, bufferOf,
      Array.getElem?_toList.symm.trans hq, Option.map_some, Option.getD_some]
    simp only [hspans, List.map_append, List.map_cons, List.flatten_append, List.flatten_cons]
    refine ⟨t.buffer.slot.toList ++ ((A.map (·.buffer.slot.toList)).flatten ++
      (B.map (·.buffer.slot.toList)).flatten), ?_, ?_⟩
    all_goals
      refine .trans (List.Perm.append_left _ (List.perm_append_comm_assoc _ _ _)) ?_
      exact List.perm_append_comm_assoc _ _ _

theorem joins_offer (hp : t.MayEnclose parent) :
    f.Joins t.held ((t.offer parent f).2 ++ (t.offer parent f).1.held) := by
  obtain ⟨rest, hbefore, hafter⟩ :=
    held_setBuffer ((t.bufferOf parent).offer t.limits.compression f).1 hp
  have hjoins := CompressionBuffer.joins_offer t.limits.compression (t.bufferOf parent) f
  refine (hjoins.append rest).perm hbefore ?_
  rw [List.append_assoc]
  exact hafter.append_left _

/-- All that is held may be merged. -/
def HoldsEligible (t : Transaction) : Prop := ∀ f ∈ t.held, f.eligible = true

theorem HoldsEligible.offer (h : t.HoldsEligible) (hp : t.MayEnclose parent) :
    (t.offer parent f).1.HoldsEligible := by
  obtain ⟨rest, hbefore, hafter⟩ :=
    held_setBuffer ((t.bufferOf parent).offer t.limits.compression f).1 hp
  intro g hg
  rcases List.mem_append.mp (hafter.mem_iff.mp hg) with hg | hg
  · refine CompressionBuffer.eligible_offer (fun k hk => ?_) _ f g (Option.mem_toList.mp hg)
    exact h k (hbefore.mem_iff.mpr (List.mem_append_left _ (Option.mem_toList.mpr hk)))
  · exact h g (hbefore.mem_iff.mpr (List.mem_append_right _ hg))

theorem HoldsEligible.subset (h : t.HoldsEligible) (hsub : t'.held ⊆ t.held) :
    t'.HoldsEligible := fun f hf => h f (hsub hf)

/-- An offer touches nothing but buffers. -/
theorem offer_eq (t : Transaction) (parent : Option Nat) (f : FinishedSpan) :
    ∃ buffer spans overflowed,
      (t.offer parent f).1 = { t with buffer, spans, overflowed } := by
  cases parent <;> exact ⟨_, _, _, rfl⟩

/-! ### Steps -/

/-- One step of a transaction, with what it releases. -/
inductive Step (t : Transaction) : Journal → Transaction → Prop
  | idle : Step t [] t
  | openSpan (e : Enclosing) (b : SpanBuilder) (parent : Option Nat) (id : SpanId) (now : Instant)
      (hadmitted : t.admission e = .ok parent) (hparent : t.MayEnclose parent) :
      Step t [] (t.openSpan b parent id now)
  | openStandIn (e : Enclosing) (b : SpanBuilder) (reason : DropReason) (now : Instant)
      (hrefused : t.admission e = .error reason) : Step t [] (t.openStandIn b reason now)
  | revise (g : Details → Details) : Step t [] (t.revise g)
  | reviseSpan (i : Nat) (g : SpanDetails → SpanDetails)
      (hpropagated : ∀ d, d.propagated = true → (g d).propagated = true) :
      Step t [] (t.reviseSpan i g)
  | reviseStandIn (i : Nat) (outcome : Outcome) :
      Step t [] (t.modifyStandIn i ({ · with outcome := some outcome }))
  | withCaller (hroot : t.isRoot = true) (caller : SpanId) : Step t [] (t.withCaller caller)
  | endStandIn (i : Nat) (default : Outcome) (now : Instant) :
      Step t [] (t.endStandIn i default now)
  | endSpan (i : Nat) (default : Outcome) (now : Instant) (frames : List Frame) :
      Step t ((t.leaving i default now frames).map t.release) (t.endSpan i default now frames).1
  | finish (result name : Option String) (now : Instant) :
      Step t (t.leavingAtEnd.map t.release) (t.finish result name now).1

variable {J : Journal}

theorem refusals_modifyStandIn {g : StandIn → StandIn} (h : ∀ s, (g s).reason = s.reason)
    (i : Nat) : (t.modifyStandIn i g).refusals = t.refusals := by
  have hcount : ∀ l : List StandIn,
      l.countP (·.reason = .maxSpansExceeded) =
        (l.map (·.reason)).countP (· = .maxSpansExceeded) := by
    intro l
    rw [List.countP_map]
    rfl
  simp only [refusals, modifyStandIn, Array.toList_modify]
  rw [hcount, map_modify_of_eq h, ← hcount]

/-- Ending a stand-in touches nothing but it and the statistics. -/
theorem endStandIn_eq (t : Transaction) (i : Nat) (default : Outcome) (now : Instant) :
    t.endStandIn i default now = t ∨ ∃ stats overflowed,
      t.endStandIn i default now = { t.modifyStandIn i ({ · with ended := true }) with
        stats, overflowed := t.overflowed || overflowed } := by
  unfold endStandIn
  split
  · exact .inl rfl
  split
  · exact .inl rfl
  refine .inr ?_
  split
  · exact ⟨_, _, rfl⟩
  · exact ⟨t.stats, false, by simp [modifyStandIn]⟩

/-- Once some duration has overflowed it stays so. -/
theorem Step.overflowed_eq_false (h : Step t J t') (hov : t'.overflowed = false) :
    t.overflowed = false := by
  cases h with
  | idle => exact hov
  | openSpan => exact hov
  | openStandIn => exact hov
  | revise g =>
    unfold Transaction.revise at hov
    split at hov <;> exact hov
  | reviseSpan => exact hov
  | reviseStandIn => exact hov
  | withCaller => exact hov
  | endStandIn i default now =>
    rcases t.endStandIn_eq i default now with heq | ⟨stats, overflowed, heq⟩ <;> rw [heq] at hov
    · exact hov
    · exact (Bool.or_eq_false_iff.mp hov).1
  | endSpan i default now frames =>
    cases hlive : t.liveSpan? i with
    | none => simpa [Transaction.endSpan, hlive] using hov
    | some sd => exact (endSpan_eq hlive hov).1
  | finish result name now =>
    cases hended : t.ended with
    | true => simpa [Transaction.finish, hended] using hov
    | false => exact (finish_eq hended hov).1

/-! ### Effects -/

/-- What a step does to the counters, and what it does not change. -/
structure Tallied (t : Transaction) (J : Journal) (t' : Transaction) : Prop where
  id : t'.id = t.id
  traceId : t'.traceId = t.traceId
  started : t'.started = t.started + (Journal.records J).length
  dropped : t'.dropped + t.refusals = t.dropped + Journal.discarded J + t'.refusals

/-- The finished span is what became of a span of the transaction. -/
structure Finishes (t : Transaction) (o : Span.Outline) (f : FinishedSpan) : Prop where
  id : f.record.id = o.id
  leaf : f.leaf = o.leaf
  plain : f.composite = none
  transactionId : f.record.transactionId = t.id
  traceId : f.record.traceId = t.traceId
  parentId : f.record.parentId = t.enclosingId o.parent

/-- What a step does to the spans of the transaction. -/
inductive Effect (t : Transaction) (J : Journal) (t' : Transaction) : Prop
  | quiet (hsame : SameSpans t t') (hcreated : t'.created = t.created)
      (hheld : t.held.Perm (J.map (·.span) ++ t'.held))
  | opened (o : Span.Outline) (houtlines : t'.outlines = t.outlines ++ [o])
      (hlive : t'.liveOutlines = t.liveOutlines ++ [o])
      (hended : t'.endedOutlines = t.endedOutlines) (hparent : t.MayEnclose o.parent)
      (hcreated : t'.created = t.created + 1) (hJ : J = []) (hheld : t'.held = t.held)
  | ended (o : Span.Outline) (f : FinishedSpan) (hmem : o ∈ t.outlines)
      (houtlines : t'.outlines = t.outlines)
      (hlive : t.liveOutlines.Perm (o :: t'.liveOutlines))
      (hended : t'.endedOutlines.Perm (o :: t.endedOutlines)) (hcreated : t'.created = t.created)
      (hfinishes : t.Finishes o f) (hjoins : f.Joins t.held (J.map (·.span) ++ t'.held))
      (heligible : t.HoldsEligible → t'.HoldsEligible)

theorem map_span_release (t : Transaction) (l : List FinishedSpan) :
    (l.map t.release).map (·.span) = l := by
  simp [Function.comp_def, release]

theorem finishes_finished (s : Span) (d : SpanDetails) (default : Outcome) (now : Instant)
    (frames : List Frame) : t.Finishes s.outline (t.finished s d default now frames) where
  id := rfl
  leaf := rfl
  plain := rfl
  transactionId := rfl
  traceId := rfl
  parentId := by
    cases hp : s.parent with
    | none => simp [finished, parentId, enclosingId, Span.outline, hp]
    | some p =>
      cases hq : t.spans[p]? <;>
        simp [finished, parentId, enclosingId, Span.outline, outlines, hp, hq]

theorem Step.tallied (h : Step t J t') (hov : t'.overflowed = false) : Tallied t J t' := by
  cases h with
  | idle => exact ⟨rfl, rfl, rfl, rfl⟩
  | openSpan => exact ⟨rfl, rfl, rfl, rfl⟩
  | openStandIn e b reason now =>
    refine ⟨rfl, rfl, rfl, ?_⟩
    simp only [Transaction.openStandIn, refusals, SpanBuilder.standIn, Array.toList_push,
      List.countP_append, List.countP_singleton, decide_eq_true_eq, Journal.discarded_nil]
    split <;> omega
  | revise g =>
    unfold Transaction.revise
    split <;> exact ⟨rfl, rfl, rfl, rfl⟩
  | reviseSpan => exact ⟨rfl, rfl, rfl, rfl⟩
  | reviseStandIn i outcome =>
    exact ⟨rfl, rfl, rfl, by rw [refusals_modifyStandIn fun _ => by rfl]; rfl⟩
  | withCaller => exact ⟨rfl, rfl, rfl, rfl⟩
  | endStandIn i default now =>
    have hrefusals := t.refusals_modifyStandIn (g := ({ · with ended := true })) (fun _ => rfl) i
    rcases t.endStandIn_eq i default now with heq | ⟨stats, overflowed, heq⟩ <;> rw [heq]
    · exact ⟨rfl, rfl, rfl, rfl⟩
    · exact ⟨rfl, rfl, rfl, congrArg (t.dropped + ·) hrefusals.symm⟩
  | endSpan i default now frames =>
    cases hlive : t.liveSpan? i with
    | none =>
      simp only [Transaction.endSpan, leaving, hlive]
      exact ⟨rfl, rfl, rfl, rfl⟩
    | some sd =>
      obtain ⟨-, stats, heq⟩ := endSpan_eq hlive hov
      obtain ⟨buffer, spans, overflowed, hoffer⟩ :=
        (t.closeSpan i).offer_eq sd.1.parent (t.finished sd.1 sd.2 default now frames)
      rw [heq, hoffer]
      exact ⟨rfl, rfl, rfl, rfl⟩
  | finish result name now =>
    cases hended : t.ended with
    | true =>
      simp only [Transaction.finish, leavingAtEnd, hended, if_true]
      exact ⟨rfl, rfl, rfl, rfl⟩
    | false =>
      obtain ⟨-, details, stats, heq, -⟩ := finish_eq hended hov
      rw [heq]
      exact ⟨rfl, rfl, rfl, rfl⟩

theorem SameSpans.refl (t : Transaction) : SameSpans t t := ⟨rfl, rfl, rfl⟩

theorem MayEnclose.congr (h : t.MayEnclose parent) (houtlines : t'.outlines = t.outlines) :
    t'.MayEnclose parent := by
  rwa [MayEnclose, houtlines]

/-- A span that ends lies beneath one that may enclose it. -/
theorem Nested.mayEnclose (hn : t.Nested) (hs : t.spans[i]? = some s) : t.MayEnclose s.parent :=
  hn s.outline (List.mem_map_of_mem (List.mem_of_getElem? (Array.getElem?_toList.trans hs)))

/-- The end of a span takes it out of the live ones, and its record joins what is held. -/
theorem effect_endSpan (hn : t.Nested)
    (hov : (t.endSpan i default now frames).1.overflowed = false) :
    Effect t ((t.leaving i default now frames).map t.release)
      (t.endSpan i default now frames).1 := by
  cases hlive : t.liveSpan? i with
  | none =>
    simp only [endSpan, leaving, hlive]
    exact .quiet (.refl t) rfl (.refl _)
  | some sd =>
    obtain ⟨s, d⟩ := sd
    obtain ⟨hs, hd⟩ := liveSpan?_eq_some_iff.mp hlive
    have hnested := hn.mayEnclose hs
    obtain ⟨houtlines, hperm, hperm'⟩ := perm_closeSpan hs (by simp [Span.ended, hd])
    obtain ⟨-, stats, heq⟩ := endSpan_eq hlive hov
    have hsame := (t.closeSpan i).sameSpans_offer s.parent (t.finished s d default now frames)
    obtain ⟨_, _, _, hoffer⟩ :=
      (t.closeSpan i).offer_eq s.parent (t.finished s d default now frames)
    have hjoins := ((t.closeSpan i).joins_offer
      (f := t.finished s d default now frames) (hnested.congr houtlines)).append
        s.buffer.slot.toList
    rw [← hsame.live] at hperm
    rw [← hsame.ended] at hperm'
    rw [heq]
    refine .ended s.outline (t.finished s d default now frames) ?_ (hsame.outlines.trans houtlines)
      hperm hperm' (by rw [hoffer]; rfl) (finishes_finished s d default now frames) ?_ fun he => ?_
    · exact List.mem_map_of_mem (List.mem_of_getElem? (Array.getElem?_toList.trans hs))
    · refine hjoins.perm ((held_closeSpan hs).trans List.perm_append_comm) ?_
      rw [map_span_release, leaving, hlive, List.append_assoc]
      exact List.perm_append_comm
    · have hclosed : (t.closeSpan i).HoldsEligible := he.subset fun f hf =>
        (held_closeSpan hs).mem_iff.mpr (List.mem_append_right _ hf)
      exact hclosed.offer (hnested.congr houtlines)

theorem effect_openSpan (b : SpanBuilder) (id : SpanId) (now : Instant)
    (hparent : t.MayEnclose parent) : Effect t [] (t.openSpan b parent id now) := by
  refine .opened ⟨id, b.leaf, parent⟩ ?_ ?_ ?_ hparent rfl rfl ?_
  · simp [outlines, openSpan, Span.outline]
  · simp [liveOutlines, openSpan, Span.outline, Span.ended]
  · simp [endedOutlines, openSpan, Span.ended]
  · simp [held, openSpan]

/-- What the buffer of a transaction that ends held is released. -/
theorem effect_finish {result name : Option String}
    (hov : (t.finish result name now).1.overflowed = false) :
    Effect t (t.leavingAtEnd.map t.release) (t.finish result name now).1 := by
  cases hended : t.ended with
  | true =>
    simp only [finish, leavingAtEnd, hended, if_true]
    exact .quiet (.refl t) rfl (.refl _)
  | false =>
    obtain ⟨-, details, stats, heq, -⟩ := finish_eq hended hov
    rw [heq]
    refine .quiet ⟨rfl, rfl, rfl⟩ rfl ?_
    rw [map_span_release, leavingAtEnd, hended]
    exact .refl _

/-- **Every step has one of the effects.** -/
theorem Step.effect (h : Step t J t') (hn : t.Nested) (hov : t'.overflowed = false) :
    Effect t J t' := by
  cases h with
  | idle => exact .quiet (.refl t) rfl (.refl _)
  | openSpan e b parent id now hadmitted hparent => exact effect_openSpan b id now hparent
  | openStandIn => exact .quiet ⟨rfl, rfl, rfl⟩ rfl (.refl _)
  | revise g =>
    unfold Transaction.revise
    split <;> exact .quiet ⟨rfl, rfl, rfl⟩ rfl (.refl _)
  | reviseSpan i g =>
    exact .quiet (sameSpans_reviseSpan i g) rfl (.of_eq (held_reviseSpan i g).symm)
  | reviseStandIn => exact .quiet ⟨rfl, rfl, rfl⟩ rfl (.refl _)
  | withCaller => exact .quiet ⟨rfl, rfl, rfl⟩ rfl (.refl _)
  | endStandIn i default now =>
    rcases t.endStandIn_eq i default now with heq | ⟨stats, overflowed, heq⟩ <;> rw [heq] <;>
      exact .quiet ⟨rfl, rfl, rfl⟩ rfl (.refl _)
  | endSpan => exact effect_endSpan hn hov
  | finish => exact effect_finish hov

theorem MayEnclose.append {o : Span.Outline} (h : t.MayEnclose parent)
    (houtlines : t'.outlines = t.outlines ++ [o]) : t'.MayEnclose parent := by
  intro p hp
  obtain ⟨q, hq, hleaf⟩ := h p hp
  refine ⟨q, ?_, hleaf⟩
  rw [houtlines, List.getElem?_append_left (List.getElem?_eq_some_iff.mp hq).1, hq]

/-- Places keep their meaning, so spans stay where they are. -/
theorem Effect.nested (h : Effect t J t') (hn : t.Nested) : t'.Nested := by
  intro o ho
  cases h with
  | quiet hsame =>
    rw [hsame.outlines] at ho
    exact (hn o ho).congr hsame.outlines
  | opened o' houtlines _ _ hparent =>
    rw [houtlines, List.mem_append, List.mem_singleton] at ho
    rcases ho with ho | rfl
    · exact (hn o ho).append houtlines
    · exact hparent.append houtlines
  | ended _ _ _ houtlines =>
    rw [houtlines] at ho
    exact (hn o ho).congr houtlines

/-- Only spans that may be merged are held. -/
theorem Effect.holdsEligible (h : Effect t J t') (he : t.HoldsEligible) : t'.HoldsEligible := by
  cases h with
  | quiet _ _ hheld => exact he.subset fun f hf => hheld.mem_iff.mpr (List.mem_append_right _ hf)
  | opened _ _ _ _ _ _ _ hheld => exact he.subset fun f hf => hheld ▸ hf
  | ended _ _ _ _ _ _ _ _ _ hheld => exact hheld he

/-- What holds of every span that ends, and is not lost by merging, holds of all that is held or
released. -/
theorem Effect.forall {P : FinishedSpan → Prop} (h : Effect t J t')
    (hfinishes : ∀ o f, o ∈ t.outlines → t.Finishes o f → P f)
    (habsorb : ∀ f ∈ t.held, ∀ g strategy, P f → P (f.absorb g strategy))
    (hheld : ∀ f ∈ t.held, P f) :
    ∀ f ∈ J.map (·.span) ++ t'.held, P f := by
  cases h with
  | quiet _ _ hperm => exact fun f hf => hheld f (hperm.mem_iff.mpr hf)
  | opened _ _ _ _ _ _ hJ hsame =>
    rw [hJ, hsame]
    exact hheld
  | ended o f hmem _ _ _ _ hfinishes' hjoins =>
    exact hjoins.forall (fun g hg => habsorb g hg f) (hfinishes o f hmem hfinishes') hheld

/-- What is released was reported unless it was too short. -/
theorem Step.reported_eq (h : Step t J t') : ∀ r ∈ J, r.reported = !t.isTooShort r.span := by
  intro r hr
  cases h with
  | endSpan | finish =>
    obtain ⟨f, -, rfl⟩ := List.mem_map.mp hr
    rfl
  | _ => cases hr

end Transaction

end Telemetry
