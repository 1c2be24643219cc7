import Mathlib.Data.List.Infix
import Telemetry.Proofs.Transaction.Step

/-!
# Children that ended first are released first

A chronicle tells what becomes of the spans of a transaction, moment by moment: a span ends and is
offered to the buffer of its parent, a finished span leaves a buffer, the transaction is reported.
It also tells of the stand-ins that are counted, which have to do with no buffer.

Two things are to be shown of it. What leaves the buffer of a parent stands for the spans that ended
beneath that parent, run by run and in their order, so that at no moment anything but a last piece
is waiting. And when the parent itself ends nothing is waiting at all.

Both are about every moment in the past, and an operation has several moments. So they are carried
on moment by moment, while the invariant that ties the chronicle to the buffers is carried on by the
two halves of the end of a span: its own buffer is closed, and then it is offered to another.

## Main definitions

* `Moment`, `Chronicle`.
* `FinishedSpan.IsMadeOf`, `Chronicle.Cut`: what left a buffer is made of what ended beneath it.
* `Chronicle.InOrder`, `Chronicle.Settled`: a last piece may be waiting, or nothing is.
* `Chronicle.Orderly`: the law of a chronicle.
* `Transaction.chronicleOfSpan`, `Transaction.chronicleOfStandIn`, `Transaction.chronicleAtEnd`: the
  moments of the operations.

## Main results

* `Chronicle.Orderly.snoc`: the law, one moment further.
* `Transaction.Segmented.endSpan`, `Transaction.Segmented.finish`: the operations keep the law.
-/

namespace Telemetry

/-! ### Chronicles -/

/-- What can be told of a transaction and its spans. -/
inductive Moment
  /-- The span at a place ends, and is offered to the buffer of its parent. -/
  | ended (place : Nat) (parent : Option Nat) (span : FinishedSpan)
  /-- A finished span leaves the buffer of a parent: it is reported, or left out. -/
  | left (parent : Option Nat) (r : Release)
  /-- The transaction itself is reported. -/
  | reported (record : TransactionRecord)
  /-- A stand-in ends that is counted under its destination. -/
  | tracked (lasted : Duration)

/-- The moments of a transaction, oldest first. -/
abbrev Chronicle := List Moment

namespace Moment

/-- The span that ends beneath a parent. -/
def endedBeneath? (parent : Option Nat) : Moment → Option FinishedSpan
  | .ended _ p f => if p = parent then some f else none
  | _ => none

/-- What leaves the buffer of a parent. -/
def leftFrom? (parent : Option Nat) : Moment → Option Release
  | .left p r => if p = parent then some r else none
  | _ => none

/-- What leaves any buffer. -/
def release? : Moment → Option Release
  | .left _ r => some r
  | _ => none

/-- The place of the span that ends. -/
def place? : Moment → Option Nat
  | .ended i _ _ => some i
  | _ => none

/-- At this moment the parent itself is offered to a buffer, or reported. -/
def Concludes (parent : Option Nat) : Moment → Prop
  | .ended i _ _ => parent = some i
  | .reported _ => parent = none
  | .left _ _ | .tracked _ => False

end Moment

/-- A finished span is what became of a run of spans that ended. -/
def FinishedSpan.IsMadeOf (s : FinishedSpan) (run : List FinishedSpan) : Prop :=
  s.StandsFor run ∧ ∀ m ∈ run, m.composite = none

namespace Chronicle

variable {C C' K : Chronicle} {parent : Option Nat} {held : List FinishedSpan}

/-- The spans that ended beneath a parent, in order. -/
def endedBeneath (C : Chronicle) (parent : Option Nat) : List FinishedSpan :=
  C.filterMap (·.endedBeneath? parent)

/-- What left the buffer of a parent, in order. -/
def leftFrom (C : Chronicle) (parent : Option Nat) : Journal := C.filterMap (·.leftFrom? parent)

/-- What left any buffer, in order. -/
def journal (C : Chronicle) : Journal := C.filterMap (·.release?)

/-- The moments at which spans leave the buffer of a parent. -/
def leaving (parent : Option Nat) (J : Journal) : Chronicle := J.map (.left parent)

@[simp] theorem endedBeneath_append (C K : Chronicle) (parent : Option Nat) :
    endedBeneath (C ++ K) parent = endedBeneath C parent ++ endedBeneath K parent := by
  simp [endedBeneath]

@[simp] theorem leftFrom_append (C K : Chronicle) (parent : Option Nat) :
    leftFrom (C ++ K) parent = leftFrom C parent ++ leftFrom K parent := by
  simp [leftFrom]

@[simp] theorem journal_append (C K : Chronicle) : journal (C ++ K) = journal C ++ journal K := by
  simp [journal]

@[simp] theorem endedBeneath_leaving (p parent : Option Nat) (J : Journal) :
    endedBeneath (leaving p J) parent = [] := by
  simp [endedBeneath, leaving, Moment.endedBeneath?]

theorem leftFrom_leaving (p parent : Option Nat) (J : Journal) :
    leftFrom (leaving p J) parent = if p = parent then J else [] := by
  have heq : (fun r => (Moment.left p r).leftFrom? parent) =
      fun r => if p = parent then some r else none := rfl
  rw [leftFrom, leaving, List.filterMap_map, Function.comp_def, heq]
  split
  · exact List.filterMap_some
  · simp

@[simp] theorem journal_leaving (parent : Option Nat) (J : Journal) :
    journal (leaving parent J) = J := by
  simp [journal, leaving, Moment.release?]

/-- What left the buffer of a parent, and then what is held by it, is made of the spans that ended
beneath the parent: of one run after the other, in their order. -/
def Cut (C : Chronicle) (parent : Option Nat) (held : List FinishedSpan) : Prop :=
  ∃ runs, endedBeneath C parent = runs.flatten ∧
    List.Forall₂ FinishedSpan.IsMadeOf ((leftFrom C parent).map (·.span) ++ held) runs

/-- Nothing that ended beneath the parent is waiting. -/
def Settled (C : Chronicle) (parent : Option Nat) : Prop := C.Cut parent []

/-- What left the buffer of a parent is made of the spans that ended beneath the parent, of one run
after the other, in their order. A last piece of them may be waiting. -/
def InOrder (C : Chronicle) (parent : Option Nat) : Prop :=
  ∃ runs waiting, endedBeneath C parent = runs.flatten ++ waiting ∧
    List.Forall₂ FinishedSpan.IsMadeOf ((leftFrom C parent).map (·.span)) runs

/-- **The law of a chronicle.** At every moment all is in order; and when a parent is offered to a
buffer, or reported, nothing that ended beneath it is waiting. -/
structure Orderly (C : Chronicle) : Prop where
  inOrder : ∀ A : Chronicle, A <+: C → ∀ parent, A.InOrder parent
  settled : ∀ (A : Chronicle) (m : Moment) (B : Chronicle), C = A ++ m :: B →
    ∀ parent, m.Concludes parent → A.Settled parent

theorem Cut.inOrder (h : C.Cut parent held) : C.InOrder parent := by
  obtain ⟨runs, hended, hleft⟩ := h
  obtain ⟨runs', rest, hleft', -, rfl⟩ :=
    CompressionBuffer.exists_append_of_forall₂_append hleft
  exact ⟨runs', rest.flatten, by rw [hended, List.flatten_append], hleft'⟩

/-- Moments that have nothing to do with the parent make no difference. -/
theorem Cut.congr (h : C.Cut parent held)
    (hended : endedBeneath C' parent = endedBeneath C parent)
    (hleft : leftFrom C' parent = leftFrom C parent) : C'.Cut parent held := by
  rwa [Cut, hended, hleft]

/-- Before the last spans left, more of them were waiting. -/
theorem InOrder.of_leaving {J K : Journal} {p : Option Nat}
    (h : InOrder (C ++ leaving p (J ++ K)) parent) : InOrder (C ++ leaving p J) parent := by
  obtain ⟨runs, waiting, hended, hleft⟩ := h
  rw [leftFrom_append, leftFrom_leaving] at hleft
  have hsplit : (leftFrom C parent ++ if p = parent then J ++ K else []) =
      leftFrom (C ++ leaving p J) parent ++ if p = parent then K else [] := by
    rw [leftFrom_append, leftFrom_leaving]
    split <;> simp
  rw [hsplit, List.map_append] at hleft
  obtain ⟨runs', rest, hleft', -, rfl⟩ :=
    CompressionBuffer.exists_append_of_forall₂_append hleft
  refine ⟨runs', rest.flatten ++ waiting, ?_, hleft'⟩
  simpa [List.append_assoc] using hended

theorem orderly_nil : Orderly [] where
  inOrder := fun A hA parent => by
    obtain rfl := List.prefix_nil.mp hA
    exact ⟨[], [], rfl, .nil⟩
  settled := fun A m B h => by simp at h

/-- **One moment further.** -/
theorem Orderly.snoc (h : C.Orderly) {m : Moment} (hnow : ∀ parent, InOrder (C ++ [m]) parent)
    (hsettled : ∀ parent, m.Concludes parent → C.Settled parent) : Orderly (C ++ [m]) where
  inOrder := fun A hA => by
    rcases List.prefix_concat_iff.mp hA with rfl | hA
    · exact hnow
    · exact h.inOrder A hA
  settled := fun A m' B heq parent hm' => by
    rcases List.eq_nil_or_concat B with rfl | ⟨B', x, rfl⟩
    · obtain ⟨rfl, hm⟩ := List.append_inj' heq rfl
      obtain rfl := List.head_eq_of_cons_eq hm
      exact hsettled parent hm'
    · have hinit : C = A ++ m' :: B' := by
        have heq' : C ++ [m] = (A ++ m' :: B') ++ [x] := by simpa using heq
        exact (List.append_inj' heq' rfl).1
      exact h.settled A m' B' hinit parent hm'

/-- Where all is in order after several spans left a buffer, it was so all the time. -/
theorem Orderly.leaving (h : C.Orderly) {p : Option Nat} {J : Journal}
    (hlast : ∀ parent, InOrder (C ++ leaving p J) parent) : Orderly (C ++ leaving p J) := by
  induction J using List.reverseRecOn with
  | nil => simpa [Chronicle.leaving] using h
  | append_singleton J r ih =>
    have hbefore : Orderly (C ++ Chronicle.leaving p J) :=
      ih fun parent => (hlast parent).of_leaving
    have hsplit : C ++ Chronicle.leaving p (J ++ [r]) =
        (C ++ Chronicle.leaving p J) ++ [.left p r] := by
      simp [Chronicle.leaving]
    rw [hsplit] at hlast ⊢
    exact hbefore.snoc hlast fun _ hm => hm.elim

/-- Whatever leaves a buffer is made of spans that have ended before. -/
theorem Orderly.exists_run (h : C.Orderly) {A B : Chronicle} {r : Release}
    (heq : C = A ++ .left parent r :: B) :
    ∃ run, r.span.IsMadeOf run ∧ ∀ m ∈ run, ∃ i, .ended i parent m ∈ A := by
  have hprefix : A ++ [.left parent r] <+: C := ⟨B, by rw [heq]; simp⟩
  obtain ⟨runs, waiting, hended, hleft⟩ := h.inOrder _ hprefix parent
  have hsame : endedBeneath (A ++ [.left parent r]) parent = endedBeneath A parent := by
    simp [endedBeneath, Moment.endedBeneath?]
  have hlast : leftFrom (A ++ [.left parent r]) parent = leftFrom A parent ++ [r] := by
    simp [leftFrom, Moment.leftFrom?]
  rw [hlast, List.map_append] at hleft
  obtain ⟨before, own, -, hown, rfl⟩ := CompressionBuffer.exists_append_of_forall₂_append hleft
  obtain _ | ⟨hrun, _ | _⟩ := hown
  rename_i run
  refine ⟨run, hrun, fun m hm => ?_⟩
  have hmem : m ∈ endedBeneath A parent := by
    rw [← hsame, hended]
    simp [hm]
  obtain ⟨x, hx, hfound⟩ := List.mem_filterMap.mp hmem
  cases x with
  | ended i p f =>
    simp only [Moment.endedBeneath?] at hfound
    split at hfound
    · rename_i hp
      obtain rfl := hp
      obtain rfl := Option.some.inj hfound
      exact ⟨i, hx⟩
    · cases hfound
  | left | reported | tracked => cases hfound

/-! ### What an operation adds -/

/-- What a buffer held has left it. -/
theorem Cut.leave {J : Journal} (h : C.Cut parent (J.map (·.span) ++ held)) :
    Cut (C ++ leaving parent J) parent held := by
  obtain ⟨runs, hended, hleft⟩ := h
  refine ⟨runs, by simpa using hended, ?_⟩
  rw [leftFrom_append, leftFrom_leaving, if_pos rfl, List.map_append, List.append_assoc]
  exact hleft

theorem Cut.leave_of_ne {J : Journal} {p : Option Nat} (h : C.Cut parent held)
    (hne : p ≠ parent) : Cut (C ++ leaving p J) parent held :=
  h.congr (by simp) (by rw [leftFrom_append, leftFrom_leaving, if_neg hne, List.append_nil])

/-- One more span ended, and is waiting. -/
theorem Cut.inOrder_ended (h : C.Cut parent held) (i : Nat) (p : Option Nat) (f : FinishedSpan) :
    InOrder (C ++ [.ended i p f]) parent := by
  obtain ⟨runs, waiting, hended, hleft⟩ := h.inOrder
  refine ⟨runs, waiting ++ endedBeneath [.ended i p f] parent, ?_, ?_⟩
  · rw [endedBeneath_append, hended, List.append_assoc]
  · simpa [leftFrom, Moment.leftFrom?] using hleft

/-- A span that ends is offered to a buffer, and what comes out leaves it. -/
theorem Cut.offer {b : CompressionBuffer} (h : C.Cut parent b.slot.toList) (hproper : b.Proper)
    (settings : CompressionSettings) {f : FinishedSpan} (hplain : f.composite = none) (i : Nat)
    {J : Journal} (hJ : J.map (·.span) = (b.offer settings f).2) :
    Cut (C ++ .ended i parent f :: leaving parent J) parent
      (b.offer settings f).1.slot.toList := by
  obtain ⟨runs, hended, hleft⟩ := h
  -- the runs that have left are settled; the one that is held goes on
  obtain ⟨done, own, hdone, hown, rfl⟩ := CompressionBuffer.exists_append_of_forall₂_append hleft
  obtain ⟨runs', hflat, hruns'⟩ :=
    CompressionBuffer.exists_runs_step (FinishedSpan.lastsInMerging_standsFor settings) hproper
      hown (.offer f) (by simpa [CompressionBuffer.offered] using hplain)
  refine ⟨done ++ runs', ?_, ?_⟩
  · have hf : endedBeneath (.ended i parent f :: leaving parent J) parent = [f] := by
      rw [← List.singleton_append, endedBeneath_append, endedBeneath_leaving]
      simp [endedBeneath, Moment.endedBeneath?]
    rw [endedBeneath_append, hended, hf, List.flatten_append, List.flatten_append, hflat,
      List.append_assoc]
    rfl
  · have hJ' : leftFrom (.ended i parent f :: leaving parent J) parent = J := by
      rw [← List.singleton_append, leftFrom_append, leftFrom_leaving, if_pos rfl]
      rfl
    rw [leftFrom_append, hJ', List.map_append, hJ, List.append_assoc]
    exact List.rel_append hdone hruns'

end Chronicle

/-! ### The two operations -/

namespace Transaction

variable {t t' : Transaction} {C : Chronicle} {i : Nat} {parent : Option Nat} {s : Span}
  {d : SpanDetails} {f : FinishedSpan} {default : Outcome} {now : Instant} {frames : List Frame}
  {result name : Option String}

/-- The moments at which a span ends: what its own buffer held leaves that, the span is offered to
the buffer of its parent, and what comes out there leaves that. -/
def chronicleOfSpan (t : Transaction) (i : Nat) (default : Outcome) (now : Instant)
    (frames : List Frame) : Chronicle :=
  match t.liveSpan? i with
  | none => []
  | some (s, d) =>
    let f := t.finished s d default now frames
    Chronicle.leaving (some i) (s.buffer.slot.toList.map t.release) ++
      .ended i s.parent f ::
        Chronicle.leaving s.parent (((t.closeSpan i).offer s.parent f).2.map t.release)

/-- The moments at which a transaction ends: what its buffer held leaves that, and the transaction
is reported. -/
def chronicleAtEnd (t : Transaction) (result name : Option String) (now : Instant) : Chronicle :=
  if t.ended then []
  else
    Chronicle.leaving none (t.buffer.slot.toList.map t.release) ++
      [.reported (((t.closeAtEnd result name).reportAll t.buffer.slot.toList).1.toRecord now)]

/-- The moment at which a stand-in ends, if it is counted. -/
def chronicleOfStandIn (t : Transaction) (i : Nat) (now : Instant) : Chronicle :=
  match t.standIns[i]? with
  | none => []
  | some s =>
    if s.ended || s.resource.isNone then []
    else [.tracked (s.duration.getD (Instant.since now s.start))]

theorem chronicleOfStandIn_cases (t : Transaction) (i : Nat) (now : Instant) :
    t.chronicleOfStandIn i now = [] ∨ ∃ d, t.chronicleOfStandIn i now = [.tracked d] := by
  unfold chronicleOfStandIn
  split
  · exact .inl rfl
  split
  · exact .inl rfl
  · exact .inr ⟨_, rfl⟩

theorem journal_chronicleOfStandIn : (t.chronicleOfStandIn i now).journal = [] := by
  rcases t.chronicleOfStandIn_cases i now with heq | ⟨d, heq⟩ <;> rw [heq] <;> rfl

theorem journal_chronicleOfSpan : (t.chronicleOfSpan i default now frames).journal =
    (t.leaving i default now frames).map t.release := by
  unfold chronicleOfSpan leaving
  cases t.liveSpan? i with
  | none => rfl
  | some sd =>
    rw [Chronicle.journal_append, Chronicle.journal_leaving, List.map_append]
    exact congrArg (_ ++ ·) (Chronicle.journal_leaving _ _)

theorem journal_chronicleAtEnd : (t.chronicleAtEnd result name now).journal =
    t.leavingAtEnd.map t.release := by
  unfold chronicleAtEnd leavingAtEnd
  split
  · rfl
  · rw [Chronicle.journal_append, Chronicle.journal_leaving]
    exact List.append_nil _

theorem bufferOf_closeSpan (hs : t.spans[i]? = some s) (parent : Option Nat) :
    (t.closeSpan i).bufferOf parent =
      if parent = some i then ⟨none, true⟩ else t.bufferOf parent := by
  cases parent with
  | none => rfl
  | some p =>
    simp only [bufferOf, closeSpan, modifySpan, Array.getElem?_modify, Option.some.injEq]
    by_cases hp : i = p
    · subst hp
      simp [hs]
    · simp [hp, Ne.symm hp]

theorem bufferOf_offer (hp : t.MayEnclose parent) (f : FinishedSpan) (q : Option Nat) :
    (t.offer parent f).1.bufferOf q =
      if q = parent then ((t.bufferOf parent).offer t.limits.compression f).1
      else t.bufferOf q := by
  cases parent with
  | none => cases q <;> rfl
  | some p =>
    obtain ⟨o, ho, -⟩ := hp p rfl
    obtain ⟨s, hs, -⟩ := getElem?_outlines_eq_some_iff.mp ho
    cases q with
    | none => rfl
    | some q =>
      simp only [offer, bufferOf, setBuffer, modifySpan, Array.getElem?_modify, hs,
        Option.some.injEq]
      by_cases hq : p = q
      · subst hq
        simp [hs]
      · simp [hq, Ne.symm hq]

/-- The chronicle follows its law, and what has not left any buffer is held by the buffers. -/
structure Segmented (t : Transaction) (C : Chronicle) : Prop where
  proper : ∀ parent, (t.bufferOf parent).Proper
  cut : ∀ parent, C.Cut parent (t.bufferOf parent).slot.toList
  orderly : C.Orderly

/-- A change that leaves the buffers alone. -/
theorem Segmented.congr (h : t.Segmented C)
    (hbuffers : ∀ parent, t'.bufferOf parent = t.bufferOf parent) : t'.Segmented C where
  proper := fun parent => by
    rw [hbuffers]
    exact h.proper parent
  cut := fun parent => by
    rw [hbuffers]
    exact h.cut parent
  orderly := h.orderly

/-- A stand-in has to do with no buffer. -/
theorem Segmented.tracked (h : t.Segmented C) (d : Duration) :
    t.Segmented (C ++ [.tracked d]) := by
  have hended : ∀ parent, Chronicle.endedBeneath (C ++ [.tracked d]) parent =
      C.endedBeneath parent := fun parent => by
    simp [Chronicle.endedBeneath, Moment.endedBeneath?]
  have hleft : ∀ parent, Chronicle.leftFrom (C ++ [.tracked d]) parent = C.leftFrom parent :=
    fun parent => by simp [Chronicle.leftFrom, Moment.leftFrom?]
  have hcut := fun parent => (h.cut parent).congr (hended parent) (hleft parent)
  exact ⟨h.proper, hcut, h.orderly.snoc (fun parent => (hcut parent).inOrder) fun _ hm => hm.elim⟩

/-- What the own buffer of a span held leaves it. -/
theorem Segmented.closeSpan (h : t.Segmented C) (hs : t.spans[i]? = some s) :
    (t.closeSpan i).Segmented
      (C ++ Chronicle.leaving (some i) (s.buffer.slot.toList.map t.release)) := by
  have hcut : ∀ parent, Chronicle.Cut
      (C ++ Chronicle.leaving (some i) (s.buffer.slot.toList.map t.release)) parent
      ((t.closeSpan i).bufferOf parent).slot.toList := by
    intro parent
    rw [bufferOf_closeSpan hs]
    split
    · rename_i hparent
      subst hparent
      have hown : t.bufferOf (some i) = s.buffer := by simp [bufferOf, hs]
      refine Chronicle.Cut.leave ?_
      rw [map_span_release, ← hown]
      simpa using h.cut (some i)
    · rename_i hparent
      exact (h.cut parent).leave_of_ne (Ne.symm hparent)
  refine ⟨fun parent => ?_, hcut, h.orderly.leaving fun parent => (hcut parent).inOrder⟩
  rw [bufferOf_closeSpan hs]
  split
  · exact ⟨fun _ => rfl, by simp⟩
  · exact h.proper parent

/-- A span beneath which nothing is waiting is offered to the buffer of its parent. -/
theorem Segmented.offer (h : t.Segmented C) (hp : t.MayEnclose parent)
    (hplain : f.composite = none) (hsettled : C.Settled (some i)) :
    (t.offer parent f).1.Segmented (C ++ .ended i parent f ::
      Chronicle.leaving parent ((t.offer parent f).2.map t.release)) := by
  have hsplit : ∀ J, C ++ .ended i parent f :: Chronicle.leaving parent J =
      (C ++ [.ended i parent f]) ++ Chronicle.leaving parent J := by simp
  have hcut : ∀ q, Chronicle.Cut
      (C ++ .ended i parent f ::
        Chronicle.leaving parent ((t.offer parent f).2.map t.release)) q
      ((t.offer parent f).1.bufferOf q).slot.toList := by
    intro q
    rw [bufferOf_offer hp]
    split
    · rename_i hq
      subst hq
      exact (h.cut q).offer (h.proper q) t.limits.compression hplain i (map_span_release t _)
    · rename_i hq
      rw [hsplit]
      refine Chronicle.Cut.leave_of_ne ?_ (Ne.symm hq)
      refine (h.cut q).congr ?_ ?_
      · simp [Chronicle.endedBeneath, Moment.endedBeneath?, Ne.symm hq]
      · simp [Chronicle.leftFrom, Moment.leftFrom?]
  refine ⟨fun q => ?_, hcut, ?_⟩
  · rw [bufferOf_offer hp]
    split
    · exact (h.proper parent).step t.limits.compression (.offer f)
    · exact h.proper q
  · have hended : Chronicle.Orderly (C ++ [.ended i parent f]) :=
      h.orderly.snoc (fun q => (h.cut q).inOrder_ended i parent f) fun q hq => by
        obtain rfl : q = some i := hq
        exact hsettled
    rw [hsplit]
    refine hended.leaving fun q => ?_
    rw [← hsplit]
    exact (hcut q).inOrder

/-- **The end of a span** follows the law. -/
theorem Segmented.endSpan (h : t.Segmented C) (hn : t.Nested)
    (hov : (t.endSpan i default now frames).1.overflowed = false) :
    (t.endSpan i default now frames).1.Segmented
      (C ++ t.chronicleOfSpan i default now frames) := by
  cases hlive : t.liveSpan? i with
  | none =>
    simpa only [Transaction.endSpan, chronicleOfSpan, hlive, List.append_nil] using h
  | some sd =>
    obtain ⟨s, d⟩ := sd
    obtain ⟨hs, hd⟩ := liveSpan?_eq_some_iff.mp hlive
    obtain ⟨houtlines, -, -⟩ := perm_closeSpan hs (by simp [Span.ended, hd])
    obtain ⟨-, stats, heq⟩ := endSpan_eq hlive hov
    have hclosed := h.closeSpan hs
    have hsettled := hclosed.cut (some i)
    rw [bufferOf_closeSpan hs, if_pos rfl] at hsettled
    have hoffered := hclosed.offer (f := t.finished s d default now frames)
      ((hn.mayEnclose hs).congr houtlines) rfl hsettled
    rw [heq]
    simp only [chronicleOfSpan, hlive]
    rw [← List.append_assoc]
    exact hoffered.congr fun q => by cases q <;> rfl

/-- **The end of a transaction** follows the law. -/
theorem Segmented.finish (h : t.Segmented C)
    (hov : (t.finish result name now).1.overflowed = false) :
    (t.finish result name now).1.Segmented (C ++ t.chronicleAtEnd result name now) := by
  cases hended : t.ended with
  | true =>
    simpa only [Transaction.finish, chronicleAtEnd, hended, if_true, List.append_nil] using h
  | false =>
    obtain ⟨-, details, stats, heq, -⟩ := finish_eq hended hov
    have hbuffers : ∀ parent, (t.finish result name now).1.bufferOf parent =
        if parent = none then ⟨none, true⟩ else t.bufferOf parent := by
      intro parent
      rw [heq]
      cases parent <;> rfl
    have hleft : ∀ parent, Chronicle.Cut
        (C ++ Chronicle.leaving none (t.buffer.slot.toList.map t.release)) parent
        ((t.finish result name now).1.bufferOf parent).slot.toList := by
      intro parent
      rw [hbuffers]
      split
      · rename_i hparent
        subst hparent
        refine Chronicle.Cut.leave ?_
        rw [map_span_release, Option.toList_none, List.append_nil]
        exact h.cut none
      · rename_i hparent
        exact (h.cut parent).leave_of_ne (Ne.symm hparent)
    have hcut : ∀ record parent, Chronicle.Cut
        (C ++ Chronicle.leaving none (t.buffer.slot.toList.map t.release) ++ [.reported record])
        parent ((t.finish result name now).1.bufferOf parent).slot.toList := fun record parent =>
      (hleft parent).congr (by simp [Chronicle.endedBeneath, Moment.endedBeneath?])
        (by simp [Chronicle.leftFrom, Moment.leftFrom?])
    simp only [chronicleAtEnd, hended, Bool.false_eq_true, if_false]
    rw [← List.append_assoc]
    refine ⟨fun parent => ?_, hcut _, ?_⟩
    · rw [hbuffers]
      split
      · exact ⟨fun _ => rfl, by simp⟩
      · exact h.proper parent
    · refine (h.orderly.leaving fun parent => (hleft parent).inOrder).snoc
        (fun parent => (hcut _ parent).inOrder) fun parent hparent => ?_
      obtain rfl : parent = none := hparent
      have hsettled := hleft none
      rwa [hbuffers] at hsettled

end Transaction

end Telemetry
