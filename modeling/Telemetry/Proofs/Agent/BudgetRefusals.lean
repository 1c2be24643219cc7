import Telemetry.Proofs.Agent.Budget
import Telemetry.Proofs.Agent.Turns
import Telemetry.Proofs.Transaction.Drafts

/-!
# What a refusal for the budget means

A transaction that refuses a span for its budget seems to say that it has admitted as many spans as
it may. It says so of its own accord only then. But a refusal is also handed on: what is opened
beneath a stand-in is refused for the reason of that one, and counted, by whichever transaction the
span is to belong to. Within one transaction this makes no difference, since a budget that is used
up stays so. A stand-in of another transaction, however, tells of the budget of that one.

So refusals can be relied on in exactly those runs in which no transaction is handed the refusal of
another one while it has budget left.

## Main definitions

* `Transaction.verdicts`: what a transaction has decided about spans until now.
* `Agent.Hands`: a call hands a transaction the refusal of another one.
* `Agent.UsedUp`: a transaction has admitted as many spans as it may.

## Main results

* `Agent.verdicts_turn`: only calls that open spans in a transaction are decided there.
* `Agent.spends_foldl`: the budget over a run in which no refusal comes from elsewhere.
* `Agent.run_refuses_used_up_iff`: when a refusal means that the budget is used up.
-/

namespace Telemetry

namespace Transaction

variable {t : Transaction} {n : Nat}

/-! ### What was decided -/

/-- What a transaction has decided about spans: how many it admitted, and why it refused the
others. -/
def verdicts (t : Transaction) : Nat × List DropReason := (t.created, t.reasons)

@[simp] theorem verdicts_reportAll (l : List FinishedSpan) :
    (t.reportAll l).1.verdicts = t.verdicts := by
  obtain ⟨_, _, _, _, heq⟩ := t.reportAll_frame l
  rw [heq]
  rfl

@[simp] theorem verdicts_offer (parent : Option Nat) (f : FinishedSpan) :
    (t.offer parent f).1.verdicts = t.verdicts := by
  obtain ⟨_, _, _, heq⟩ := t.offer_eq parent f
  rw [heq]
  rfl

theorem verdicts_modifyStandIn {g : StandIn → StandIn} (h : ∀ s, (g s).reason = s.reason)
    (i : Nat) : (t.modifyStandIn i g).verdicts = t.verdicts := by
  simp only [verdicts, reasons, modifyStandIn, Array.toList_modify]
  rw [map_modify_of_eq h]

theorem verdicts_endSpan (i : Nat) (default : Outcome) (now : Instant) (frames : List Frame) :
    (t.endSpan i default now frames).1.verdicts = t.verdicts := by
  cases hlive : t.liveSpan? i with
  | none => simp only [endSpan, hlive]
  | some sd =>
    rw [endSpan_of_live hlive]
    simp only [verdicts_reportAll, verdicts_offer]
    rfl

theorem verdicts_finish (result name : Option String) (now : Instant) :
    (t.finish result name now).1.verdicts = t.verdicts := by
  cases hended : t.ended with
  | true => simp [finish, hended]
  | false =>
    have hreport : ((t.closeAtEnd result name).reportAll t.buffer.slot.toList).1.verdicts =
        t.verdicts := verdicts_reportAll _
    rw [finish_of_not_ended hended, ← hreport]
    obtain ⟨_, heq⟩ :=
      forgetContext_eq ((t.closeAtEnd result name).reportAll t.buffer.slot.toList).1
    dsimp only
    rw [heq]
    rfl

theorem verdicts_endStandIn (i : Nat) (default : Outcome) (now : Instant) :
    (t.endStandIn i default now).verdicts = t.verdicts := by
  have hended : (t.modifyStandIn i ({ · with ended := true })).verdicts = t.verdicts :=
    verdicts_modifyStandIn (fun _ => by rfl) i
  rcases t.endStandIn_eq i default now with heq | ⟨_, _, heq⟩ <;> rw [heq]
  exact hended

/-! ### What the verdicts say about the budget -/

/-- A transaction has admitted so many spans, no more than it may; and if it has refused one for its
budget, that is used up. -/
structure Spends (t : Transaction) (n : Nat) : Prop where
  created : t.created = n
  within : 0 < t.limits.maxSpans → n ≤ t.limits.maxSpans
  refused : .maxSpansExceeded ∈ t.reasons → t.hasBudget = false

theorem spends_of_isNew (h : t.IsNew) : t.Spends 0 where
  created := h.created
  within := fun _ => Nat.zero_le _
  refused := by simp [reasons, h.standIns]

/-- A budget is used up when as many spans as it allows were admitted. -/
theorem Spends.hasBudget_eq_false_iff (h : t.Spends n) :
    t.hasBudget = false ↔ 0 < t.limits.maxSpans ∧ n = t.limits.maxSpans := by
  have hwithin := h.within
  have hcreated := h.created
  simp only [hasBudget, Bool.or_eq_false_iff, decide_eq_false_iff_not]
  omega

/-- Whatever decides nothing leaves the budget as it was. -/
theorem Spends.congr {t' : Transaction} (h : t.Spends n) (hverdicts : t'.verdicts = t.verdicts)
    (hlimits : t'.limits = t.limits) : t'.Spends n := by
  obtain ⟨hcreated, hreasons⟩ := Prod.mk.inj hverdicts
  refine ⟨hcreated.trans h.created, hlimits ▸ h.within, fun hmem => ?_⟩
  have hbudget : t'.hasBudget = t.hasBudget := by simp only [hasBudget, hlimits, hcreated]
  rw [hbudget]
  exact h.refused (hreasons ▸ hmem)

/-- What is admitted is paid for; after that nothing was refused before. -/
theorem Spends.openSpan (h : t.Spends n) (hbudget : t.hasBudget = true) (b : SpanBuilder)
    (parent : Option Nat) (id : SpanId) (now : Instant) :
    (t.openSpan b parent id now).Spends (n + 1) where
  created := congrArg (· + 1) h.created
  within := by
    intro hpos
    have hle := (grows_openSpan (p := parent) b id now hbudget).budget hpos
      (h.created ▸ h.within hpos)
    rw [← h.created]
    exact hle
  refused := by
    intro hmem
    rw [h.refused hmem] at hbudget
    cases hbudget

/-- A refusal costs nothing. One for the budget is in order if that is used up. -/
theorem Spends.openStandIn {reason : DropReason} (h : t.Spends n)
    (hbudget : reason = .maxSpansExceeded → t.hasBudget = false) (b : SpanBuilder)
    (now : Instant) : (t.openStandIn b reason now).Spends n where
  created := h.created
  within := h.within
  refused := by
    intro hmem
    have hreasons : (t.openStandIn b reason now).reasons = t.reasons ++ [reason] := by
      simp [reasons, Transaction.openStandIn, SpanBuilder.standIn]
    rw [hreasons, List.mem_append, List.mem_singleton] at hmem
    exact hmem.elim h.refused fun heq => hbudget heq.symm

end Transaction

namespace Agent

variable {a : Agent} {t : TransactionRef} {tx : Transaction} {n : Nat} {b : SpanBuilder}
  {parent : Option SpanHandle} {actions : List Action}

/-! ### Where refusals come from -/

/-- A transaction records: it is sampled and has not ended. -/
def Records (a : Agent) (t : TransactionRef) : Prop :=
  ∃ tx, a.transaction? t = some tx ∧ tx.sampled = true ∧ tx.ended = false

/-- A call with this parent hands the transaction the refusal of another one: the parent is a
stand-in that the other one gave out for the sake of its budget, and the transaction records. -/
def Hands (a : Agent) (t : TransactionRef) (parent : Option SpanHandle) : Prop :=
  a.Records t ∧ ∃ u i s, parent = some (.standIn u i) ∧ u ≠ t ∧
    a.standIn? (.standIn u i) = some s ∧ s.reason = .maxSpansExceeded

/-- A transaction with a budget of `limit` spans has admitted that many in the course of the
actions. A limit of zero stands for no limit. -/
def UsedUp (a : Agent) (t : TransactionRef) (limit : Nat) (actions : List Action) : Prop :=
  0 < limit ∧ (a.openings t actions).countP (·.recorded) = limit

/-- Only a call that opens a span in a transaction is decided there. -/
theorem verdicts_turn {act : Action} (hact : ∀ b parent, act ≠ .beginSpan t b parent)
    (a : Agent) (tx : Transaction) : (a.turn t tx act).verdicts = tx.verdicts := by
  cases act with
  | changeTransaction u c =>
    simp only [turn, Transaction.revise]
    split
    · split <;> rfl
    · rfl
  | ensureParentId u =>
    simp only [turn]
    split
    · split <;> rfl
    · rfl
  | finishTransaction u result name =>
    simp only [turn]
    split
    · exact Transaction.verdicts_finish ..
    · rfl
  | beginSpan u b parent =>
    simp only [turn]
    rw [if_neg]
    rintro rfl
    exact hact b parent rfl
  | changeSpan u c =>
    cases u with
    | recording u j =>
      cases c <;> simp only [turn] <;> split <;> rfl
    | standIn u j =>
      cases c with
      | outcome o =>
        simp only [turn]
        split
        · exact Transaction.verdicts_modifyStandIn (fun _ => by rfl) j
        · rfl
      | name | context | label | link => rfl
    | detached => cases c <;> rfl
  | outboundOfSpan u =>
    cases u with
    | recording u j =>
      simp only [turn, Transaction.outboundOf]
      split
      · split <;> rfl
      · rfl
    | standIn | detached => rfl
  | endSpan u default =>
    cases u with
    | recording u j =>
      simp only [turn]
      split
      · exact Transaction.verdicts_endSpan ..
      · rfl
    | standIn u j =>
      simp only [turn]
      split
      · exact Transaction.verdicts_endStandIn ..
      · rfl
    | detached => rfl
  | _ => rfl

/-- What encloses a span has refused for a budget if the parent is a stand-in that did. -/
theorem enclosing_eq_refused_iff : a.enclosing t parent = .standIn .maxSpansExceeded ↔
    ∃ u i s, parent = some (.standIn u i) ∧ a.standIn? (.standIn u i) = some s ∧
      s.reason = .maxSpansExceeded := by
  constructor
  · intro h
    unfold enclosing at h
    split at h
    · cases h
    · cases h
    · rename_i u i
      cases hs : a.standIn? (.standIn u i) with
      | none => simp [hs] at h
      | some s =>
        simp only [hs, Enclosing.standIn.injEq] at h
        exact ⟨u, i, s, rfl, hs, h⟩
    · split at h
      · split at h
        · cases h
        · split at h <;> cases h
      · cases h
  · rintro ⟨u, i, s, rfl, hs, hreason⟩
    simp only [enclosing, hs, hreason]

/-- **A refusal for the budget** finds it used up, or was handed over by another transaction. -/
theorem hasBudget_eq_false_of_refused (htx : a.transaction? t = some tx) (hspends : tx.Spends n)
    (h : tx.admission (a.enclosing t parent) = .error .maxSpansExceeded) :
    tx.hasBudget = false ∨ a.Hands t parent := by
  rcases Transaction.refused_for_budget h with hnone | henclosed
  · exact .inl hnone
  obtain ⟨u, i, s, rfl, hs, hreason⟩ := enclosing_eq_refused_iff.mp henclosed
  by_cases hu : u = t
  · subst u
    have hplace : tx.standIns[i]? = some s := by simpa [standIn?, htx] using hs
    have hmem : .maxSpansExceeded ∈ tx.reasons :=
      List.mem_map.mpr ⟨s, Array.mem_toList_iff.mpr (Array.mem_of_getElem? hplace), hreason⟩
    exact .inl (hspends.refused hmem)
  · have hlive := Transaction.live_of_admission (t := tx)
      (e := a.enclosing t (some (.standIn u i))) (by rw [h]; simp)
    exact .inr ⟨⟨tx, htx, hlive⟩, u, i, s, rfl, hu, hs, hreason⟩

/-- What another transaction has refused for its budget is refused, and counted, whatever the budget
of this one. -/
theorem refusal_of_hands (h : a.Hands t parent) (b : SpanBuilder) :
    (a.opening t b parent).refusal = some .maxSpansExceeded := by
  obtain ⟨⟨tx, htx, hsampled, hlive⟩, u, i, s, hparent, -, hs, hreason⟩ := h
  have henclosing : a.enclosing t parent = .standIn .maxSpansExceeded :=
    enclosing_eq_refused_iff.mpr ⟨u, i, s, hparent, hs, hreason⟩
  rw [refusal_opening htx, henclosing, Transaction.admission_of_live hsampled hlive]

/-! ### Runs -/

/-- No call of the run hands the transaction the refusal of another one while it has budget left. -/
def KeepsApart (a : Agent) (t : TransactionRef) (limit : Nat) (actions : List Action) : Prop :=
  ∀ before b parent, before ++ [.beginSpan t b parent] <+: actions →
    (before.foldl perform a).Hands t parent → a.UsedUp t limit before

theorem openings_concat (a : Agent) (t : TransactionRef) (actions : List Action) (act : Action) :
    a.openings t (actions ++ [act]) =
      a.openings t actions ++ (actions.foldl perform a).opens t act := by
  rw [openings_append, openings, openings, List.append_nil]

/-- **The budget over a run** in which no refusal comes from elsewhere. -/
theorem spends_foldl (htx : a.transaction? t = some tx) (hnew : tx.IsNew)
    (hapart : a.KeepsApart t tx.limits.maxSpans actions) :
    ∃ tx', (actions.foldl perform a).transaction? t = some tx' ∧ tx'.limits = tx.limits ∧
      tx'.Spends ((a.openings t actions).countP (·.recorded)) := by
  -- The run grows at its end, where the state and the log until then are known.
  induction actions using List.reverseRec with
  | nil => exact ⟨tx, htx, rfl, Transaction.spends_of_isNew hnew⟩
  | append_singleton actions act ih =>
    have hbefore : a.KeepsApart t tx.limits.maxSpans actions :=
      fun before b parent h => hapart before b parent (h.trans (List.prefix_append _ _))
    obtain ⟨tx', htx', hlimits, hspends⟩ := ih hbefore
    rw [List.foldl_concat, openings_concat, List.countP_append]
    by_cases hact : ∃ b parent, act = .beginSpan t b parent
    · obtain ⟨b, parent, rfl⟩ := hact
      have hopens : (actions.foldl perform a).opens t (.beginSpan t b parent) =
          [(actions.foldl perform a).opening t b parent] := by simp [opens]
      rw [hopens, List.countP_singleton]
      rcases opening_cases htx' b parent with
        ⟨place, id, hadmission, hnext, heq⟩ | ⟨reason, hadmission, hnext, heq⟩ <;> rw [heq]
      · exact ⟨_, hnext, hlimits,
          hspends.openSpan (Transaction.admitted hadmission).1 b place id _⟩
      · refine ⟨_, hnext, hlimits, hspends.openStandIn (fun hreason => ?_) b _⟩
        subst hreason
        rcases hasBudget_eq_false_of_refused htx' hspends hadmission with hnone | hhands
        · exact hnone
        · have hused := hapart actions b parent List.prefix_rfl hhands
          rw [hspends.hasBudget_eq_false_iff, hlimits]
          exact hused
    · have hothers : ∀ b parent, act ≠ .beginSpan t b parent := fun b parent h =>
        hact ⟨b, parent, h⟩
      have hopens : (actions.foldl perform a).opens t act = [] := by
        rcases (actions.foldl perform a).opens_cases t act with h | ⟨b, parent, h, -⟩
        · exact h
        · exact absurd h (hothers b parent)
      obtain ⟨tx'', htx'', hgrows⟩ := grows_perform htx' act
      obtain rfl := Option.some.inj ((transaction?_perform htx' act).symm.trans htx'')
      rw [hopens]
      exact ⟨_, htx'', hgrows.limits.trans hlimits,
        hspends.congr (verdicts_turn hothers _ tx') hgrows.limits⟩

/-- **When a refusal means that the budget is used up.** A transaction begins with a budget of
`limit` spans, where zero stands for no limit. Anything happens, also to other transactions, and
spans are opened beneath handles of any transaction. Then these come to the same:

* whenever a call in the transaction refuses a span for the budget, or counts it as dropped, the
  budget is limited and all of it has been admitted;
* whenever a call hands the transaction the refusal of another one, this is so.

A call counts a span as dropped if it refuses it for the budget, and only then. -/
theorem run_refuses_used_up_iff (a : Agent) (b : TransactionBuilder) (actions : List Action) :
    let begun := (a.beginTransaction b).1
    let t := (a.beginTransaction b).2
    let limit := a.config.current.maxSpans
    ((∀ before s parent, before ++ [.beginSpan t s parent] <+: actions →
        let o := (before.foldl perform begun).opening t s parent
        o.refusal = some .maxSpansExceeded ∨ o.after.dropped ≠ o.before.dropped →
          begun.UsedUp t limit before) ↔
      begun.KeepsApart t limit actions) ∧
    ∀ (before : List Action) (s : SpanBuilder) (parent : Option SpanHandle),
      let o := (before.foldl perform begun).opening t s parent
      o.after = ⟨o.before.started,
        o.before.dropped + if o.refusal = some .maxSpansExceeded then 1 else 0⟩ := by
  intro begun t limit
  obtain ⟨tx, htx, hnew, hlimits⟩ := a.exists_begun b
  have hmax : tx.limits.maxSpans = limit := by
    rw [hlimits]
    rfl
  have hafter : ∀ (before : List Action) (s : SpanBuilder) (parent : Option SpanHandle),
      let o := (before.foldl perform begun).opening t s parent
      o.after = ⟨o.before.started,
        o.before.dropped + if o.refusal = some .maxSpansExceeded then 1 else 0⟩ := by
    intro before s parent
    obtain ⟨tx', htx', -⟩ := grows_foldl htx before
    exact after_opening htx' s parent
  refine ⟨⟨fun hclaim before s parent hprefix hhands => ?_, fun hapart => ?_⟩, hafter⟩
  · exact hclaim before s parent hprefix (.inl (refusal_of_hands hhands s))
  · intro before s parent hprefix o ho
    have hrefused : o.refusal = some .maxSpansExceeded := by
      by_contra hne
      have hcount := hafter before s parent
      dsimp only at hcount
      rw [if_neg hne] at hcount
      exact ho.elim hne fun hdropped => hdropped (congrArg SpanCount.dropped hcount)
    have hbefore : begun.KeepsApart t limit before := fun before' s' parent' h =>
      hapart before' s' parent' (h.trans ((List.prefix_append _ _).trans hprefix))
    obtain ⟨tx', htx', hlimits', hspends⟩ := spends_foldl htx hnew (hmax ▸ hbefore)
    have hdecision := refusal_opening htx' s parent
    rw [hrefused] at hdecision
    have hadmission : tx'.admission ((before.foldl perform begun).enclosing t parent) =
        .error .maxSpansExceeded := by
      split at hdecision
      · cases hdecision
      · rename_i reason hreason
        rw [hreason, ← Option.some.inj hdecision]
    rcases hasBudget_eq_false_of_refused htx' hspends hadmission with hnone | hhands
    · rw [hspends.hasBudget_eq_false_iff, hlimits', hmax] at hnone
      exact hnone
    · exact hapart before s parent hprefix hhands

/-- A transaction uses up its budget of one span and refuses another one. Then the limit is
changed. -/
def refusedOnce (limit : Nat) : Agent :=
  let b : TransactionBuilder :=
    { kind := "request", caller := some (.create (.ofNat 1) (.ofNat 9) true) }
  let actions : List Action :=
    [.beginTransaction b, .beginSpan 0 {} none, .beginSpan 0 {} none,
      .updateConfig ({ · with maxSpans := limit })]
  actions.foldl perform { config := ⟨{ maxSpans := 1 }, 0⟩ }

/-- A transaction with a budget of one span uses it up before it is handed a refusal. -/
theorem run_refuses_used_up_iff_inTurn :
    let b : TransactionBuilder :=
      { kind := "request", caller := some (.create (.ofNat 2) (.ofNat 9) true) }
    let begun := ((refusedOnce 1).beginTransaction b).1
    let refused : Option SpanHandle := some (.standIn 0 0)
    let actions : List Action := [.beginSpan 1 {} none, .beginSpan 1 {} refused]
    begun.KeepsApart 1 1 actions ∧
      ((begun.perform (.beginSpan 1 {} none)).opening 1 {} refused).refusal =
        some .maxSpansExceeded ∧
      begun.UsedUp 1 1 [.beginSpan 1 {} none] := by
  intro b begun refused actions
  have hrefused : ((begun.perform (.beginSpan 1 {} none)).opening 1 {} refused).refusal =
    some .maxSpansExceeded := by decide +kernel
  have hapart : begun.KeepsApart 1 1 actions := by
    intro before s parent hprefix hhands
    rcases before with - | ⟨first, - | ⟨second, before⟩⟩
    · obtain ⟨-, u, i, s, hparent, -⟩ := hhands
      simp only [actions, List.nil_append, List.cons_prefix_cons, Action.beginSpan.injEq] at hprefix
      cases hprefix.1.2.2.symm.trans hparent
    · have hfirst : first = .beginSpan 1 {} none := (List.cons_prefix_cons.mp hprefix).1
      rw [hfirst, UsedUp]
      decide +kernel
    · have hlength := hprefix.length_le
      simp [actions] at hlength
  obtain ⟨hiff, -⟩ := run_refuses_used_up_iff (refusedOnce 1) b actions
  exact ⟨hapart, hrefused, hiff.mpr hapart [.beginSpan 1 {} none] {} refused List.prefix_rfl
    (.inl hrefused)⟩

/-- **A transaction without a limit refuses a span for its budget**, and counts it as dropped, since
it is opened beneath what another transaction has refused. -/
theorem not_refuses_used_up_handedOver :
    let b : TransactionBuilder :=
      { kind := "request", caller := some (.create (.ofNat 2) (.ofNat 9) true) }
    let begun := ((refusedOnce 0).beginTransaction b).1
    let refused : Option SpanHandle := some (.standIn 0 0)
    let o := begun.opening 1 {} refused
    (refusedOnce 0).config.current.maxSpans = 0 ∧ o.live = true ∧
      o.refusal = some .maxSpansExceeded ∧ o.before = ⟨0, 0⟩ ∧ o.after = ⟨0, 1⟩ ∧
      ¬ ∀ before s parent, before ++ [.beginSpan 1 s parent] <+: [.beginSpan 1 {} refused] →
        let o := (before.foldl perform begun).opening 1 s parent
        o.refusal = some .maxSpansExceeded ∨ o.after.dropped ≠ o.before.dropped →
          begun.UsedUp 1 0 before := by
  intro b begun refused o
  have hrefused : o.refusal = some .maxSpansExceeded := by decide +kernel
  refine ⟨by decide +kernel, by decide +kernel, hrefused, by decide +kernel, by decide +kernel,
    fun hclaim => ?_⟩
  obtain ⟨hpos, -⟩ := hclaim [] {} refused List.prefix_rfl (.inl hrefused)
  exact Nat.lt_irrefl 0 hpos

end Agent

end Telemetry
