import Telemetry.Proofs.Agent.Budget
import Telemetry.Proofs.Agent.Story

/-!
# What the record of an error refers to

An error that is captured within a transaction names the recorded span that is current then, or else
the transaction. A transaction is reported when it ends. A span is reported under its identifier
unless it may be left out or merged, and that is decided when it ends: only a leaf that succeeded
may, if no other service was told about it. That an error names it makes no difference.

So the errors captured in any other span refer to something that is reported. Of the remaining ones
it can be said what became of the span: it left the buffer of its parent in some release, by itself
or as a member of a composite, and was reported in it or left out.

## Main results

* `Transaction.Chronicled.exists_release`: what becomes of every span once everything has ended.
* `Agent.parentId_captured`: what the record of an error refers to.
* `Agent.run_errors_refer`: whether that is reported, in all runs.
-/

namespace Telemetry

theorem exists_of_forall₂_of_mem_right {α β : Type} {R : α → β → Prop} {as : List α}
    {bs : List β} (h : List.Forall₂ R as bs) {b : β} (hb : b ∈ bs) : ∃ a ∈ as, R a b := by
  induction h with
  | nil => cases hb
  | cons hab _ ih =>
    rcases List.mem_cons.mp hb with rfl | hb
    · exact ⟨_, List.mem_cons_self, hab⟩
    · obtain ⟨a, ha, hab⟩ := ih hb
      exact ⟨a, List.mem_cons_of_mem _ ha, hab⟩

/-- What is made of a run has the identifier of its first member. -/
theorem FinishedSpan.IsMadeOf.id_eq {s f : FinishedSpan} {run : List FinishedSpan}
    (h : s.IsMadeOf run) (hf : run.head? = some f) : s.toRecord.id = f.record.id := by
  obtain ⟨m, hm, heq⟩ := h.1.first
  obtain rfl := Option.some.inj (hm.symm.trans hf)
  rw [heq]
  rfl

/-- The identifier of what is reported. -/
def Event.reportedId? : Event → Option SpanId
  | .transaction r => some r.id
  | .span r => some r.id
  | .error _ => none

/-- What the record of an error refers to. -/
def Event.refersTo? : Event → Option SpanId
  | .error r => r.parentId
  | _ => none

namespace Chronicle

variable {C : Chronicle} {parent : Option Nat} {r : Release}

theorem mem_leftFrom : r ∈ C.leftFrom parent ↔ .left parent r ∈ C := by
  rw [leftFrom, List.mem_filterMap]
  constructor
  · rintro ⟨m, hm, hr⟩
    cases m with
    | left p r' =>
      simp only [Moment.leftFrom?, Option.ite_none_right_eq_some, Option.some.injEq] at hr
      obtain ⟨rfl, rfl⟩ := hr
      exact hm
    | ended | reported | tracked => cases hr
  · intro hm
    exact ⟨_, hm, if_pos rfl⟩

theorem mem_endedBeneath {i : Nat} {f : FinishedSpan} (h : .ended i parent f ∈ C) :
    f ∈ C.endedBeneath parent :=
  List.mem_filterMap.mpr ⟨_, h, if_pos rfl⟩

/-- Where nothing is waiting, every span that ended beneath the parent has left its buffer. -/
theorem Settled.exists_release (h : C.Settled parent) {i : Nat} {f : FinishedSpan}
    (hf : .ended i parent f ∈ C) :
    ∃ r run, .left parent r ∈ C ∧ r.span.IsMadeOf run ∧ f ∈ run := by
  obtain ⟨runs, hended, hleft⟩ := h
  have hmem := mem_endedBeneath hf
  rw [hended] at hmem
  obtain ⟨run, hrun, hf⟩ := List.mem_flatten.mp hmem
  rw [List.append_nil] at hleft
  obtain ⟨s, hs, hmade⟩ := exists_of_forall₂_of_mem_right hleft hrun
  obtain ⟨r, hr, rfl⟩ := List.mem_map.mp hs
  exact ⟨r, run, mem_leftFrom.mp hr, hmade, hf⟩

end Chronicle

namespace Transaction

variable {t : Transaction} {C : Chronicle}

/-- A span that has ended is told, as what became of it. -/
theorem Chronicled.exists_ended (h : t.Chronicled C) {i : Nat} {s : Span}
    (hs : t.spans[i]? = some s) (hended : s.ended = true) :
    ∃ f, .ended i s.parent f ∈ C ∧ t.Finishes s.outline f := by
  obtain ⟨-, f, hf⟩ := h.recounted.ended hs hended
  obtain ⟨s', hs', -, -, hfinishes⟩ := h.recounted.told hf
  obtain rfl := Option.some.inj (hs.symm.trans hs')
  exact ⟨f, hf, hfinishes⟩

/-- When everything has ended nothing is waiting. -/
theorem Chronicled.settled (h : t.Chronicled C) (hended : t.ended = true)
    (hspans : ∀ s ∈ t.spans, s.ended = true) {parent : Option Nat} (hp : t.MayEnclose parent) :
    C.Settled parent := by
  have hclosed : (t.bufferOf parent).closed = true := by
    cases parent with
    | none => exact (h.recounted.reported hended).1
    | some p =>
      obtain ⟨o, ho, -⟩ := hp p rfl
      obtain ⟨s, hs, -⟩ := getElem?_outlines_eq_some_iff.mp ho
      rw [bufferOf, hs]
      exact (h.recounted.ended hs (hspans s (Array.mem_of_getElem? hs))).1
  have hcut := h.segmented.cut parent
  rwa [(h.segmented.proper parent).closed hclosed] at hcut

/-- **What becomes of every span** once everything has ended: it left the buffer of its parent in
some release. -/
theorem Chronicled.exists_release (h : t.Chronicled C) (hended : t.ended = true)
    (hspans : ∀ s ∈ t.spans, s.ended = true) {i : Nat} {parent : Option Nat} {f : FinishedSpan}
    (hf : .ended i parent f ∈ C) :
    ∃ r run, .left parent r ∈ C ∧ r.span.IsMadeOf run ∧ f ∈ run := by
  obtain ⟨s, hs, -, rfl, -⟩ := h.recounted.told hf
  exact (h.settled hended hspans (h.conserved.nested.mayEnclose hs)).exists_release hf

end Transaction

theorem Story.mem_events {S : Story} {t : TransactionRef} {m : Moment} {e : Event}
    (hm : m ∈ S.of t) (he : m.event? = some e) : e ∈ S.events := by
  obtain ⟨h, hh, hmoment⟩ := List.mem_filterMap.mp hm
  refine List.mem_filterMap.mpr ⟨h, hh, ?_⟩
  cases h with
  | within u m' =>
    simp only [Happening.moment?, Option.ite_none_right_eq_some, Option.some.injEq] at hmoment
    rw [Happening.event?, hmoment.2, he]
  | captured => cases hmoment

namespace Agent

variable {a : Agent} {act : Action} {record : ErrorRecord} {t : TransactionRef} {tx : Transaction}

theorem story_append (a : Agent) (before after : List Action) :
    a.story (before ++ after) = a.story before ++ (before.foldl perform a).story after := by
  induction before generalizing a with
  | nil => rfl
  | cons act rest ih => rw [List.cons_append, story, story, ih, List.append_assoc, List.foldl_cons]

/-- What is captured happens. -/
theorem happenings_captured (h : a.captured? act = some record) :
    a.happenings act = [.captured record] := by
  cases act with
  | captureError | captureMessage =>
    obtain rfl := Option.some.inj h
    rfl
  | _ => cases h

/-- What is captured in a run is queued. -/
theorem mem_events_of_captured (before after : List Action)
    (h : (a.run before).agent.captured? act = some record) :
    .error record ∈ (a.story (before ++ act :: after)).events := by
  rw [story_append, ← agent_run, story, happenings_captured h, Story.events_append]
  exact List.mem_append_right _ List.mem_cons_self

/-- **What the record of an error refers to**: the recorded span that is current, or else the
current transaction. -/
theorem parentId_captured (h : a.captured? act = some record)
    (hcurrent : a.currentTransaction = some t) (htx : a.transaction? t = some tx) :
    record.transactionId = some tx.id ∧
      record.parentId = some ((a.currentSpan.bind a.spanId?).getD tx.id) := by
  have htie : ∀ record, a.tie record = record.within tx (a.currentSpan.bind a.spanId?) := by
    intro record
    simp only [tie, hcurrent, Option.bind_some, htx]
  cases act with
  | captureError message typeName chain handled =>
    obtain rfl := Option.some.inj h
    exact ⟨congrArg ErrorRecord.transactionId (htie _), congrArg ErrorRecord.parentId (htie _)⟩
  | captureMessage message level =>
    obtain rfl := Option.some.inj h
    exact ⟨congrArg ErrorRecord.transactionId (htie _), congrArg ErrorRecord.parentId (htie _)⟩
  | _ => cases h

/-- **Error records refer to something that is reported**, or it is known what became of it. Let any
operations happen to an agent that has not begun a transaction yet, and let no duration overflow.
Let an error or a message be captured in a transaction while no span of another one is current, and
let the transaction and all its spans have ended in the end. The record is queued, and names the
transaction. What it refers to is

* the transaction, which is queued; or
* the recorded span that is current, which is queued under its identifier and by itself, unless it
  is a leaf that succeeded and no other service was told about it. In any case it left the buffer of
  its parent in some release, which was reported or left out; and if it was reported, and the span
  is the first member of it, then under the identifier of the span.

A queue that keeps everything has these events. -/
theorem run_errors_refer (a : Agent) (before : List Action) (act : Action) (after : List Action)
    (hnone : a.transactions = #[])
    (hov : (a.run (before ++ act :: after)).agent.overflowed = false)
    (hcaptured : (a.run before).agent.captured? act = some record)
    (hcurrent : (a.run before).agent.currentTransaction = some t)
    (hbegun : ((a.run before).agent.transaction? t).isSome = true)
    (hown : ∀ u i, (a.run before).agent.currentSpan = some (.recording u i) → u = t)
    (htx : (a.run (before ++ act :: after)).agent.transaction? t = some tx)
    (hended : tx.ended = true) (hspans : ∀ s ∈ tx.spans, s.ended = true) :
    let story := a.story (before ++ act :: after)
    a.Received story.events (a.run (before ++ act :: after)).agent ∧
    .error record ∈ story.events ∧ record.transactionId = some tx.id ∧
    ∃ id, record.parentId = some id ∧
      ((∃ r, .transaction r ∈ story.events ∧ r.id = id) ∨
        ∃ i parent f, (a.run before).agent.currentSpan = some (.recording t i) ∧
          .ended i parent f ∈ story.of t ∧ f.record.id = id ∧
          (f.discardable = false →
            ∃ r, .span r ∈ story.events ∧ r.id = id ∧ r.composite = none) ∧
          ∃ r run, .left parent r ∈ story.of t ∧ r.span.IsMadeOf run ∧ f ∈ run ∧
            (r.reported = true → run.head? = some f →
              .span r.span.toRecord ∈ story.events ∧ r.span.toRecord.id = id)) := by
  intro story
  have hc := (story_chronicled hnone hov).known htx
  obtain ⟨tx₀, htx₀⟩ := Option.isSome_iff_exists.mp hbegun
  have hagent : (a.run (before ++ act :: after)).agent =
      ((a.run before).agent.run (act :: after)).agent := by
    simp only [agent_run, List.foldl_append]
  -- the transaction is the same, and its spans are where they were
  have hid : tx.id = tx₀.id := by
    obtain ⟨tx', htx', hsame⟩ := run_sameTrace htx₀ (act :: after)
    obtain rfl := Option.some.inj ((hagent ▸ htx).symm.trans htx')
    exact hsame.id
  have hgrows : tx₀.Grows tx := by
    obtain ⟨tx', htx', hgrows⟩ := grows_foldl htx₀ (act :: after)
    rw [hagent, agent_run] at htx
    obtain rfl := Option.some.inj (htx.symm.trans htx')
    exact hgrows
  obtain ⟨htransaction, hparent⟩ := parentId_captured hcaptured hcurrent htx₀
  rw [← hid] at htransaction hparent
  refine ⟨story_received hov, mem_events_of_captured before after hcaptured, htransaction, _,
    hparent, ?_⟩
  cases hspan : (a.run before).agent.currentSpan.bind (a.run before).agent.spanId? with
  | none =>
    obtain ⟨-, r, hr, hrid⟩ := hc.recounted.reported hended
    exact .inl ⟨r, Story.mem_events hr rfl, hrid⟩
  | some id =>
    right
    obtain ⟨handle, hhandle, hspanId⟩ := Option.bind_eq_some_iff.mp hspan
    obtain ⟨s₀, hs₀, rfl⟩ := Option.map_eq_some_iff.mp hspanId
    cases handle with
    | standIn => cases hs₀
    | detached => cases hs₀
    | recording u i =>
      obtain rfl := hown u i hhandle
      have hplace : tx₀.spans[i]? = some s₀ := by simpa [span?, htx₀] using hs₀
      obtain ⟨s, hs, hsame⟩ := hgrows.exists_span hplace
      obtain ⟨f, hf, hfinishes⟩ := hc.exists_ended hs (hspans s (Array.mem_of_getElem? hs))
      have hfid : f.record.id = s₀.id := hfinishes.id.trans (congrArg Span.Outline.id hsame)
      refine ⟨i, s.parent, f, hhandle, hf, hfid, fun hkept => ?_, ?_⟩
      · have hleft := hc.recounted.passed hf hkept
        refine ⟨f.toRecord, Story.mem_events hleft rfl, hfid, ?_⟩
        simp [FinishedSpan.toRecord, hfinishes.plain]
      · obtain ⟨r, run, hleft, hmade, hmem⟩ := hc.exists_release hended hspans hf
        refine ⟨r, run, hleft, hmade, hmem, fun hreported hfirst => ⟨?_, ?_⟩⟩
        · exact Story.mem_events hleft (if_pos hreported)
        · exact (hmade.id_eq hfirst).trans hfid

/-- A message is captured in a span that is no leaf. -/
def capturedMessages : List Action :=
  [.beginTransaction { kind := "request", caller := some (.create (.ofNat 1) (.ofNat 9) true) },
    .beginSpan 0 { name := "outer" } none, .setSpan (some (.recording 0 0)),
    .captureMessage "slow" .warning, .endSpan (.recording 0 0) .success,
    .finishTransaction 0 none none]

/-- The message refers to the span, which is reported. -/
theorem run_errors_refer_capturedMessages :
    let story := inMemory.story capturedMessages
    (inMemory.run capturedMessages).agent.overflowed = false ∧
    story.events.filterMap (·.refersTo?) = [.ofNat 2] ∧
    story.events.filterMap (·.reportedId?) = [.ofNat 2, .ofNat 1] ∧
    ∃ record id, .error record ∈ story.events ∧ record.parentId = some id ∧
      ((∃ r, .transaction r ∈ story.events ∧ r.id = id) ∨
        ∃ i parent f, .ended i parent f ∈ story.of 0 ∧ f.record.id = id) := by
  let before := capturedMessages.take 3
  have hov : (inMemory.run capturedMessages).agent.overflowed = false := by decide +kernel
  have hsome : ((inMemory.run capturedMessages).agent.transaction? 0).isSome = true := by
    decide +kernel
  have hbegun : ((inMemory.run before).agent.transaction? 0).isSome = true := by decide +kernel
  have hcurrent : (inMemory.run before).agent.currentTransaction = some 0 := by decide +kernel
  have hspan : (inMemory.run before).agent.currentSpan = some (.recording 0 0) := by
    decide +kernel
  have hown : ∀ u i, (inMemory.run before).agent.currentSpan = some (.recording u i) → u = 0 := by
    intro u i h
    rw [hspan] at h
    cases h
    rfl
  have hconcluded : ((inMemory.run capturedMessages).agent.transaction? 0).all (fun tx =>
      tx.ended && tx.spans.all (·.ended)) = true := by decide +kernel
  obtain ⟨tx, htx⟩ := Option.isSome_iff_exists.mp hsome
  rw [htx, Option.all_some, Bool.and_eq_true, Array.all_eq_true'] at hconcluded
  obtain ⟨-, herror, -, id, hid, hrefers⟩ := run_errors_refer inMemory before
    (.captureMessage "slow" .warning) (capturedMessages.drop 4) rfl hov rfl hcurrent hbegun hown
    htx hconcluded.1 hconcluded.2
  refine ⟨hov, by decide +kernel, by decide +kernel, _, id, herror, hid, ?_⟩
  exact hrefers.imp_right fun ⟨i, parent, f, _, hf, hfid, _⟩ => ⟨i, parent, f, hf, hfid⟩

/-- A message is captured in a call that is too short to be reported. -/
def messageInShortCall : List Action :=
  [.beginTransaction { kind := "request", caller := some (.create (.ofNat 1) (.ofNat 9) true) },
    .beginSpan 0 { kind := "db", leaf := true, duration := some 1 } none,
    .setSpan (some (.recording 0 0)), .captureMessage "slow" .warning,
    .endSpan (.recording 0 0) .success, .finishTransaction 0 none none]

/-- **The message refers to nothing that is reported.** -/
theorem not_errors_refer_messageInShortCall :
    let story := inMemory.story messageInShortCall
    (inMemory.run messageInShortCall).agent.overflowed = false ∧
    ((inMemory.run messageInShortCall).agent.transaction? 0).map (fun tx =>
      tx.ended && tx.spans.all (·.ended)) = some true ∧
    story.events.filterMap (·.refersTo?) = [.ofNat 2] ∧
    story.events.filterMap (·.reportedId?) = [.ofNat 1] ∧
    ¬ ∀ id ∈ story.events.filterMap (·.refersTo?),
      id ∈ story.events.filterMap (·.reportedId?) := by
  decide +kernel

end Agent

end Telemetry
