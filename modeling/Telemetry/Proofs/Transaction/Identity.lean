import Telemetry.Proofs.Agent.Moves

/-!
# What a transaction is never told anew

A transaction keeps its identifier, its sample rate and the trace that it belongs to for as long as
it lives. Its caller can change, but only from none to one: the root of a trace may be given a
caller once, and everybody else has one from the start.

## Main definitions

* `Transaction.Identity`: what the record of a transaction says about its place in the trace.
* `Transaction.SameTrace`: a later state of the same transaction.

## Main results

* `Transaction.Step.identity_eq`: one step changes nothing of this but the caller of a root.
* `Agent.run_sameTrace`: nor does any run.
* `Transaction.exists_of_mem_finish`: the record that is sent is that of the same identity.
-/

namespace Telemetry

namespace Transaction

variable {t t' t'' : Transaction} {J : Journal}

/-- What the record of a transaction says about its place in the trace. -/
structure Identity where
  id : SpanId
  traceParent : TraceParent
  sampleRate : Option Float

/-- The identifier, the trace context and the sample rate of a transaction. -/
def identity (t : Transaction) : Identity := ⟨t.id, t.traceParent, t.sampleRate⟩

/-! ### Steps -/

theorem identity_report (t : Transaction) (f : FinishedSpan) :
    (t.report f).1.identity = t.identity := by
  unfold report
  split
  · rfl
  split
  · cases h : f.resource <;> simp only [discard, h] <;> rfl
  · rfl

theorem identity_reportAll (t : Transaction) (l : List FinishedSpan) :
    (t.reportAll l).1.identity = t.identity := by
  induction l generalizing t with
  | nil => rfl
  | cons f rest ih => exact (ih (t.report f).1).trans (identity_report t f)

theorem identity_offer (t : Transaction) (parent : Option Nat) (f : FinishedSpan) :
    (t.offer parent f).1.identity = t.identity := by
  obtain ⟨buffer, spans, overflowed, heq⟩ := t.offer_eq parent f
  rw [heq]
  rfl

theorem identity_endSpan (t : Transaction) (i : Nat) (default : Outcome) (now : Instant)
    (frames : List Frame) : (t.endSpan i default now frames).1.identity = t.identity := by
  cases hlive : t.liveSpan? i with
  | none => simp only [endSpan, hlive]
  | some sd =>
    rw [endSpan_of_live hlive]
    dsimp only
    rw [identity_reportAll, identity_offer, identity_reportAll]
    rfl

theorem identity_forgetContext (t : Transaction) : t.forgetContext.identity = t.identity := by
  obtain ⟨details, heq⟩ := t.forgetContext_eq
  rw [heq]
  rfl

theorem identity_finish (t : Transaction) (result name : Option String) (now : Instant) :
    (t.finish result name now).1.identity = t.identity := by
  cases hended : t.ended with
  | true => simp only [finish, hended, if_true]
  | false =>
    rw [finish_of_not_ended hended]
    dsimp only
    rw [identity_forgetContext, identity_reportAll]
    rfl

/-- **One step** leaves the identity as it is, unless it gives the root of a trace a caller. -/
theorem Step.identity_eq (h : t.Step J t') :
    t'.identity = t.identity ∨ t.isRoot = true ∧ ∃ caller, t' = t.withCaller caller := by
  cases h with
  | withCaller hroot caller => exact .inr ⟨hroot, caller, rfl⟩
  | idle | openSpan | openStandIn | reviseSpan | reviseStandIn => exact .inl rfl
  | revise g =>
    unfold Transaction.revise
    split <;> exact .inl rfl
  | endStandIn i default now =>
    rcases t.endStandIn_eq i default now with heq | ⟨stats, overflowed, heq⟩ <;> rw [heq] <;>
      exact .inl rfl
  | endSpan i default now frames => exact .inl (identity_endSpan t i default now frames)
  | finish result name now => exact .inl (identity_finish t result name now)

/-! ### Later states -/

/-- A later state of the same transaction. Only a root may have come to have another caller. -/
structure SameTrace (t t' : Transaction) : Prop where
  id : t'.id = t.id
  sampleRate : t'.sampleRate = t.sampleRate
  context : t'.traceParent = t.traceParent.withSpanId t'.traceParent.spanId
  caller : t.isRoot = false → t'.traceParent = t.traceParent

theorem sameTrace_of_identity_eq (h : t'.identity = t.identity) : t.SameTrace t' := by
  have hcontext : t'.traceParent = t.traceParent := congrArg Identity.traceParent h
  exact ⟨congrArg Identity.id h, congrArg Identity.sampleRate h, by rw [hcontext]; rfl,
    fun _ => hcontext⟩

theorem SameTrace.refl (t : Transaction) : t.SameTrace t := ⟨rfl, rfl, rfl, fun _ => rfl⟩

theorem SameTrace.isRoot (h : t.SameTrace t') (hroot : t.isRoot = false) : t'.isRoot = false := by
  rw [Transaction.isRoot, h.caller hroot, h.id]
  exact hroot

theorem SameTrace.trans (h : t.SameTrace t') (h' : t'.SameTrace t'') : t.SameTrace t'' where
  id := h'.id.trans h.id
  sampleRate := h'.sampleRate.trans h.sampleRate
  context := by
    rw [h'.context, h.context]
    rfl
  caller := fun hroot => (h'.caller (h.isRoot hroot)).trans (h.caller hroot)

theorem Step.sameTrace (h : t.Step J t') : t.SameTrace t' := by
  rcases h.identity_eq with hsame | ⟨hroot, caller, rfl⟩
  · exact sameTrace_of_identity_eq hsame
  · exact ⟨rfl, rfl, rfl, fun hnot => absurd (hroot.symm.trans hnot) (by decide)⟩

/-! ### Records -/

/-- **The record that is sent when a transaction ends** is that of a state with its identity. -/
theorem exists_of_mem_finish {result name : Option String} {now : Instant}
    {r : TransactionRecord} (h : Event.transaction r ∈ (t.finish result name now).2) :
    ∃ t' : Transaction, t'.identity = t.identity ∧ r = t'.toRecord now := by
  cases hended : t.ended with
  | true => simp [finish, hended] at h
  | false =>
    rw [finish_of_not_ended hended] at h
    dsimp only at h
    refine ⟨((t.closeAtEnd result name).reportAll t.buffer.slot.toList).1,
      identity_reportAll _ _, ?_⟩
    rw [List.mem_append] at h
    rcases h with h | h
    · simp at h
    · split at h
      · simp at h
      · simpa using h

end Transaction

namespace Agent

variable {a : Agent} {place : TransactionRef} {tx : Transaction}

theorem sameTrace_foldl {h : History} (htx : h.agent.transaction? place = some tx)
    (actions : List Action) :
    ∃ tx', (actions.foldl History.step h).agent.transaction? place = some tx' ∧
      tx.SameTrace tx' := by
  induction actions generalizing h tx with
  | nil => exact ⟨tx, htx, .refl tx⟩
  | cons act rest ih =>
    obtain ⟨tx', htx', hstep⟩ := (h.agent.perform_moves act).old htx
    obtain ⟨tx'', htx'', hrest⟩ := ih (h := h.step act) htx'
    exact ⟨tx'', htx'', hstep.sameTrace.trans hrest⟩

/-- **No run changes** which trace a transaction belongs to. -/
theorem run_sameTrace (htx : a.transaction? place = some tx) (actions : List Action) :
    ∃ tx', (a.run actions).agent.transaction? place = some tx' ∧ tx.SameTrace tx' :=
  sameTrace_foldl (h := ⟨a, []⟩) htx actions

end Agent

end Telemetry
