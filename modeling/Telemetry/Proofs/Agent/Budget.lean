import Mathlib.Logic.Relation
import Telemetry.Proofs.Agent.Moves
import Telemetry.Proofs.Transaction.Admission

/-!
# The budget over whole runs

Every call that opens a span in a transaction is written down, with what it was asked for and what
it returned. The log is no part of the agent. It shows what a single decision cannot: that the
decisions of a whole run fit together, whoever made the calls and whatever happened in between.

A span lies beneath another if a chain of parents leads there. The parents are what the callers say
they are; only a parent that was opened earlier counts, since a caller can hold no other handle.
What a span takes over from its parent can be handed on along the chain, so one law for parents
gives the law for all ancestors.

## Main definitions

* `Opening`, `Agent.openings`: the log of a transaction.
* `Opening.Inherits`: what a span takes over from those that it lies beneath.
* `Opening.Beneath`: a chain of parents leads from one call to the other.
* `Transaction.Logged`: what a transaction knows about its log.

## Main results

* `Opening.inherits_of_beneath`: from parents to ancestors.
* `Agent.openings_logged`: the log of a run.
* `Agent.run_keeps_budget`: the laws of the budget, for all runs.
-/

namespace Telemetry

/-! ### Logs -/

/-- A call that opened a span in a transaction. -/
structure Opening where
  parent : Option SpanHandle
  leaf : Bool
  /-- The transaction had not ended. -/
  live : Bool
  /-- The handle that was returned. -/
  span : SpanHandle
  /-- Why the span is not recorded, if it is not. -/
  refusal : Option DropReason
  /-- What the transaction had counted before the call. -/
  before : SpanCount
  /-- What it had counted afterwards. -/
  after : SpanCount
  deriving DecidableEq

namespace Agent

/-- What a transaction has counted. -/
def counted (a : Agent) (t : TransactionRef) : SpanCount :=
  ((a.transaction? t).map (·.spanCount)).getD ⟨0, 0⟩

/-- The call that opens a span in a transaction now. -/
def opening (a : Agent) (t : TransactionRef) (b : SpanBuilder) (parent : Option SpanHandle) :
    Opening :=
  let (a', span) := a.beginSpanIn t b parent
  { parent
    leaf := b.leaf
    live := !a.hasEnded t
    span
    refusal := if (a'.span? span).isSome then none else some (a'.dropReason span)
    before := a.counted t
    after := a'.counted t }

/-- The call by which an action opens a span in a transaction, if it does. -/
def opens (a : Agent) (t : TransactionRef) : Action → List Opening
  | .beginSpan u b parent => if u = t then [a.opening t b parent] else []
  | _ => []

/-- The calls by which actions open spans in a transaction, oldest first. -/
def openings (a : Agent) (t : TransactionRef) : List Action → List Opening
  | [] => []
  | act :: rest => a.opens t act ++ (a.perform act).openings t rest

end Agent

namespace Opening

variable {log : List Opening} {o p q : Opening}

/-- The span is recorded. -/
def recorded (o : Opening) : Bool := o.refusal.isNone

/-- What a span takes over from one that it lies beneath. -/
structure Inherits (p o : Opening) : Prop where
  live : o.live = true → p.live = true
  /-- What is recorded lies beneath what is recorded and no leaf. -/
  recorded : o.refusal = none → p.refusal = none ∧ p.leaf = false
  leaf : o.live = true → p.refusal = none → p.leaf = true → o.refusal = some .leafParent
  /-- A refusal is passed on with its reason. -/
  refused : o.live = true → ∀ reason, p.refusal = some reason → o.refusal = some reason

theorem Inherits.trans (h : Inherits p q) (h' : Inherits q o) : Inherits p o where
  live := fun ho => h.live (h'.live ho)
  recorded := fun ho => h.recorded (h'.recorded ho).1
  leaf := fun ho hp hleaf => h'.refused ho _ (h.leaf (h'.live ho) hp hleaf)
  refused := fun ho reason hp => h'.refused ho _ (h.refused (h'.live ho) reason hp)

/-- What is settled between two calls, of which the first was made earlier. -/
structure Precedes (p o : Opening) : Prop where
  live : o.live = true → p.live = true
  /-- The budget admits nothing after it has refused something. -/
  exhausted : p.refusal = some .maxSpansExceeded → o.recorded = false
  inherits : o.parent = some p.span → Inherits p o

/-- The call at the second place was given as parent what the one at the first place returned, which
was made earlier. -/
def Child (log : List Opening) (i j : Nat) : Prop :=
  i < j ∧ ∃ p ∈ log[i]?, ∃ o ∈ log[j]?, o.parent = some p.span

/-- A chain of parents leads from the call at the second place to the one at the first place. -/
def Beneath (log : List Opening) : Nat → Nat → Prop := Relation.TransGen (Child log)

/-- Every parent is a handle that was returned earlier. -/
def ParentsKnown : List SpanHandle → List Opening → Prop
  | _, [] => True
  | earlier, o :: later =>
    (∀ s ∈ o.parent, s ∈ earlier) ∧ ParentsKnown (earlier ++ [o.span]) later

instance decidableParentsKnown :
    ∀ earlier log, Decidable (ParentsKnown earlier log)
  | _, [] => inferInstanceAs (Decidable True)
  | earlier, o :: later =>
    have := decidableParentsKnown (earlier ++ [o.span]) later
    inferInstanceAs (Decidable ((∀ s ∈ o.parent, s ∈ earlier) ∧ _))

/-- **From parents to ancestors.** -/
theorem inherits_of_beneath (hlog : log.Pairwise Precedes) {i j : Nat} (h : Beneath log i j)
    (hp : log[i]? = some p) (ho : log[j]? = some o) : Inherits p o := by
  have hchild : ∀ {i j p o}, Child log i j → log[i]? = some p → log[j]? = some o →
      Inherits p o := by
    rintro i j p o ⟨hij, p', hp', o', ho', hparent⟩ hp ho
    obtain rfl := Option.some.inj (hp'.symm.trans hp)
    obtain rfl := Option.some.inj (ho'.symm.trans ho)
    obtain ⟨hi, rfl⟩ := List.getElem?_eq_some_iff.mp hp
    obtain ⟨hj, rfl⟩ := List.getElem?_eq_some_iff.mp ho
    exact (List.pairwise_iff_getElem.mp hlog i j hi hj hij).inherits hparent
  -- The chain grows at the lower end, so the induction is on what is below.
  induction h generalizing o with
  | single hij => exact hchild hij hp ho
  | @tail k j _ hkj ih =>
    obtain ⟨-, q, hq, -⟩ := id hkj
    exact (ih hq).trans (hchild hkj hq ho)

end Opening

/-! ### What a transaction knows about its log -/

namespace Transaction

variable {t : TransactionRef} {tx tx' : Transaction} {o : Opening} {log : List Opening}

/-- A transaction knows what it decided about a call. -/
inductive Knows (tx : Transaction) (t : TransactionRef) (o : Opening) : Prop
  | recorded (i : Nat) (outline : Span.Outline) (hrefusal : o.refusal = none)
      (hspan : o.span = .recording t i) (hplace : tx.outlines[i]? = some outline)
      (hleaf : outline.leaf = o.leaf)
  | refused (i : Nat) (reason : DropReason) (hrefusal : o.refusal = some reason)
      (hspan : o.span = .standIn t i) (hplace : tx.reasons[i]? = some reason)

/-- A transaction and the log of its calls. -/
structure Logged (t : TransactionRef) (tx : Transaction) (log : List Opening) : Prop where
  knows : ∀ o ∈ log, tx.Knows t o
  admitted : log.countP (·.recorded) ≤ tx.created
  within : 0 < tx.limits.maxSpans → tx.created ≤ tx.limits.maxSpans
  exhausted : ∀ o ∈ log, o.refusal = some .maxSpansExceeded → tx.hasBudget = false
  sampled : ∀ o ∈ log, o.refusal ≠ some .notRecording → tx.sampled = true
  live : ∀ o ∈ log, tx.ended = false → o.live = true

theorem Knows.mono (h : tx.Knows t o) (hgrows : Grows tx tx') : tx'.Knows t o := by
  cases h with
  | recorded i outline hrefusal hspan hplace hleaf =>
    exact .recorded i outline hrefusal hspan (getElem?_mono hgrows.outlines hplace) hleaf
  | refused i reason hrefusal hspan hplace =>
    exact .refused i reason hrefusal hspan (getElem?_mono hgrows.reasons hplace)

theorem logged_nil (h : tx.created = 0) : Logged t tx [] where
  knows := by simp
  admitted := Nat.zero_le _
  within := fun _ => h ▸ Nat.zero_le _
  exhausted := by simp
  sampled := by simp
  live := by simp

/-- What is known about a log stays true. -/
theorem Logged.mono (h : Logged t tx log) (hgrows : Grows tx tx') : Logged t tx' log where
  knows := fun o ho => (h.knows o ho).mono hgrows
  admitted := h.admitted.trans hgrows.created
  within := by
    rw [hgrows.limits]
    exact fun hpos => hgrows.budget hpos (h.within hpos)
  exhausted := fun o ho hrefused => hgrows.hasBudget_eq_false (h.exhausted o ho hrefused)
  sampled := by
    rw [hgrows.sampled]
    exact h.sampled
  live := by
    intro o ho hlive
    refine h.live o ho (eq_false_of_ne_true fun hended => ?_)
    rw [hgrows.ended hended] at hlive
    cases hlive

/-- One more call is logged. -/
theorem Logged.append (h : Logged t tx log) (hknows : tx.Knows t o)
    (hadmitted : log.countP (·.recorded) + (if o.recorded then 1 else 0) ≤ tx.created)
    (hexhausted : o.refusal = some .maxSpansExceeded → tx.hasBudget = false)
    (hsampled : o.refusal ≠ some .notRecording → tx.sampled = true)
    (hlive : tx.ended = false → o.live = true) : Logged t tx (log ++ [o]) where
  knows := List.forall_mem_append.mpr ⟨h.knows, List.forall_mem_singleton.mpr hknows⟩
  admitted := by rwa [List.countP_append, List.countP_singleton]
  within := h.within
  exhausted := List.forall_mem_append.mpr ⟨h.exhausted, List.forall_mem_singleton.mpr hexhausted⟩
  sampled := List.forall_mem_append.mpr ⟨h.sampled, List.forall_mem_singleton.mpr hsampled⟩
  live := List.forall_mem_append.mpr ⟨h.live, List.forall_mem_singleton.mpr hlive⟩

end Transaction

/-! ### One call -/

namespace Agent

variable {a : Agent} {t : TransactionRef} {tx : Transaction} {o p : Opening} {log : List Opening}
  {b : SpanBuilder} {parent : Option SpanHandle}

/-- What a span encloses follows from what was decided about it. -/
theorem enclosing_span (htx : a.transaction? t = some tx) (h : tx.Knows t p) :
    match p.refusal with
    | none => ∃ i, a.enclosing t (some p.span) = if p.leaf then .leaf else .span i
    | some reason => a.enclosing t (some p.span) = .standIn reason := by
  cases h with
  | recorded i outline hrefusal hspan hplace hleaf =>
    obtain ⟨s, hs, rfl⟩ : ∃ s, tx.spans[i]? = some s ∧ s.outline = outline := by
      simpa [Transaction.outlines] using hplace
    rw [hrefusal]
    refine ⟨i, ?_⟩
    rw [hspan, enclosing_recording htx hs, ← hleaf]
    rfl
  | refused i reason hrefusal hspan hplace =>
    obtain ⟨s, hs, rfl⟩ : ∃ s, tx.standIns[i]? = some s ∧ s.reason = reason := by
      simpa [Transaction.reasons] using hplace
    rw [hrefusal]
    dsimp only
    rw [hspan, enclosing_standIn htx hs]

/-- The call that opens a span in a transaction that is there: what the transaction decides is
what is returned, and what is counted. -/
theorem opening_cases (htx : a.transaction? t = some tx) (b : SpanBuilder)
    (parent : Option SpanHandle) :
    (∃ place id, tx.admission (a.enclosing t parent) = .ok place ∧
      (a.perform (.beginSpan t b parent)).transaction? t =
        some (tx.openSpan b place id a.now) ∧
      a.opening t b parent =
        { parent, leaf := b.leaf, live := !tx.ended, span := .recording t tx.spans.size,
          refusal := none, before := tx.spanCount, after := tx.spanCount }) ∨
    ∃ reason, tx.admission (a.enclosing t parent) = .error reason ∧
      (a.perform (.beginSpan t b parent)).transaction? t =
        some (tx.openStandIn b reason a.now) ∧
      a.opening t b parent =
        { parent, leaf := b.leaf, live := !tx.ended, span := .standIn t tx.standIns.size,
          refusal := some reason, before := tx.spanCount,
          after := (tx.openStandIn b reason a.now).spanCount } := by
  have hbefore : a.counted t = tx.spanCount := by simp [counted, htx]
  have hlive : a.hasEnded t = tx.ended := by simp [hasEnded, htx]
  cases hadmission : tx.admission (a.enclosing t parent) with
  | ok place =>
    have heq := beginSpanIn_of_admitted (b := b) htx hadmission
    generalize a.freshSpanId.2 = id at heq
    generalize ha' : a.freshSpanId.1.modifyTransaction t (·.openSpan b place id a.now) = a' at heq
    have hnew : a'.transaction? t = some (tx.openSpan b place id a.now) := by
      rw [← ha']
      exact transaction?_modifyTransaction (a := a.freshSpanId.1) htx _
    have hspan : (a'.span? (.recording t tx.spans.size)).isSome = true := by
      simp [span?, hnew, Transaction.openSpan]
    have hafter : a'.counted t = tx.spanCount := by
      simp [counted, hnew, Transaction.openSpan, Transaction.spanCount]
    refine .inl ⟨place, id, rfl, by rwa [perform, heq], ?_⟩
    simp only [opening, heq, hbefore, hlive, hspan, hafter, if_true]
  | error reason =>
    obtain ⟨ns, heq⟩ := beginSpanIn_of_refused (b := b) htx hadmission
    generalize ha' : (a.modifyTransaction t (·.openStandIn b reason a.now)).noteAll ns = a' at heq
    have hnew : a'.transaction? t = some (tx.openStandIn b reason a.now) := by
      rw [← ha', transaction?, transactions_noteAll]
      exact transaction?_modifyTransaction htx _
    have hreason : a'.dropReason (.standIn t tx.standIns.size) = reason := by
      simp [dropReason, standIn?, hnew, Transaction.openStandIn, SpanBuilder.standIn]
    have hafter : a'.counted t = (tx.openStandIn b reason a.now).spanCount := by
      simp [counted, hnew]
    refine .inr ⟨reason, rfl, by rwa [perform, heq], ?_⟩
    simp [opening, heq, hbefore, hlive, span?, hreason, hafter]

/-- The reason that is returned is the one that was decided on. -/
theorem refusal_opening (htx : a.transaction? t = some tx) (b : SpanBuilder)
    (parent : Option SpanHandle) :
    (a.opening t b parent).refusal = match tx.admission (a.enclosing t parent) with
      | .ok _ => none
      | .error reason => some reason := by
  rcases opening_cases htx b parent with
    ⟨place, id, hadmission, -, heq⟩ | ⟨reason, hadmission, -, heq⟩ <;> rw [heq, hadmission]

theorem live_opening (htx : a.transaction? t = some tx) (b : SpanBuilder)
    (parent : Option SpanHandle) : (a.opening t b parent).live = !tx.ended := by
  simp [opening, hasEnded, htx]

/-- A refusal for the budget counts once, and nothing else counts. -/
theorem after_opening (htx : a.transaction? t = some tx) (b : SpanBuilder)
    (parent : Option SpanHandle) :
    (a.opening t b parent).after =
      ⟨(a.opening t b parent).before.started, (a.opening t b parent).before.dropped +
        if (a.opening t b parent).refusal = some .maxSpansExceeded then 1 else 0⟩ := by
  rcases opening_cases htx b parent with ⟨place, id, -, -, heq⟩ | ⟨reason, -, -, heq⟩ <;> rw [heq]
  · rfl
  · simp only [Transaction.spanCount, Transaction.openStandIn, Option.some.injEq]
    split <;> rfl

theorem refusal_opening_of_ended (htx : a.transaction? t = some tx) (hended : tx.ended = true)
    (b : SpanBuilder) (parent : Option SpanHandle) :
    (a.opening t b parent).refusal = some .notRecording := by
  rw [refusal_opening htx, Transaction.admission_of_ended hended]

/-- What is recorded beneath an earlier span shows that this is recorded and no leaf. -/
theorem recorded_of_admitted (htx : a.transaction? t = some tx) (hp : tx.Knows t p)
    {place : Option Nat} (h : tx.admission (a.enclosing t (some p.span)) = .ok place) :
    p.refusal = none ∧ p.leaf = false := by
  have henclosing := enclosing_span htx hp
  obtain ⟨-, hfree⟩ := Transaction.admitted h
  cases hrefusal : p.refusal with
  | some reason =>
    simp only [hrefusal] at henclosing
    rw [henclosing] at hfree
    rcases hfree with h | ⟨i, h⟩ <;> cases h
  | none =>
    simp only [hrefusal] at henclosing
    obtain ⟨i, henclosing⟩ := henclosing
    refine ⟨rfl, eq_false_of_ne_true fun hleaf => ?_⟩
    rw [henclosing, if_pos hleaf] at hfree
    rcases hfree with h | ⟨i, h⟩ <;> cases h

/-- A call takes over what it has to from the one that returned its parent. -/
theorem inherits_opening (htx : a.transaction? t = some tx) (hlog : tx.Logged t log)
    (hp : p ∈ log) (b : SpanBuilder) : p.Inherits (a.opening t b (some p.span)) := by
  have hrefusal := refusal_opening htx b (some p.span)
  have henclosing := enclosing_span htx (hlog.knows p hp)
  have hlive : (a.opening t b (some p.span)).live = true → tx.ended = false := by
    rw [live_opening htx, Bool.not_eq_true']
    exact fun hended => hended
  refine ⟨fun ho => hlog.live p hp (hlive ho), fun ho => ?_, fun ho hrecorded hleaf => ?_,
    fun ho reason hrefused => ?_⟩
  · cases hdecision : tx.admission (a.enclosing t (some p.span)) with
    | ok place => exact recorded_of_admitted htx (hlog.knows p hp) hdecision
    | error reason =>
      rw [ho, hdecision] at hrefusal
      cases hrefusal
  · have hsampled := hlog.sampled p hp (by simp [hrecorded])
    simp only [hrecorded] at henclosing
    obtain ⟨i, henclosing⟩ := henclosing
    rw [hrefusal, henclosing, if_pos hleaf, Transaction.admission_of_live hsampled (hlive ho)]
  · simp only [hrefused] at henclosing
    rw [hrefusal, henclosing]
    cases hsampled : tx.sampled with
    | true => rw [Transaction.admission_of_live hsampled (hlive ho)]
    | false =>
      -- A transaction that is not sampled has never given another reason.
      have hreason : reason = .notRecording := by
        by_contra hne
        have := hlog.sampled p hp (by rw [hrefused]; simpa using hne)
        simp [hsampled] at this
      rw [Transaction.admission_of_not_sampled hsampled, hreason]

/-- What is settled between a call that was logged and the one that is made now. -/
theorem precedes_opening (htx : a.transaction? t = some tx) (hlog : tx.Logged t log)
    (hp : p ∈ log) (b : SpanBuilder) (parent : Option SpanHandle) :
    p.Precedes (a.opening t b parent) where
  live := by
    intro ho
    rw [live_opening htx, Bool.not_eq_true'] at ho
    exact hlog.live p hp ho
  exhausted := by
    intro hrefused
    rw [Opening.recorded, refusal_opening htx]
    cases hdecision : tx.admission (a.enclosing t parent) with
    | error reason => rfl
    | ok place =>
      have hnone := hlog.exhausted p hp hrefused
      rw [(Transaction.admitted hdecision).1] at hnone
      cases hnone
  inherits := by
    intro hparent
    obtain rfl : parent = some p.span := hparent
    exact inherits_opening htx hlog hp b

/-- What is refused for the budget, beneath an earlier span or beneath none, finds it used up. -/
theorem exhausted_of_refused (htx : a.transaction? t = some tx) (hlog : tx.Logged t log)
    (hparent : ∀ s ∈ parent, s ∈ log.map (·.span))
    (h : tx.admission (a.enclosing t parent) = .error .maxSpansExceeded) :
    tx.hasBudget = false := by
  rcases Transaction.refused_for_budget h with hnone | henclosed
  · exact hnone
  cases parent with
  | none => cases henclosed
  | some s =>
    obtain ⟨p, hp, rfl⟩ := List.mem_map.mp (hparent s rfl)
    have henclosing := enclosing_span htx (hlog.knows p hp)
    cases hrefusal : p.refusal with
    | none =>
      simp only [hrefusal] at henclosing
      obtain ⟨i, henclosing⟩ := henclosing
      rw [henclosing] at henclosed
      split at henclosed <;> cases henclosed
    | some reason =>
      simp only [hrefusal] at henclosing
      rw [henclosing] at henclosed
      cases henclosed
      exact hlog.exhausted p hp hrefusal

/-- The log with one more call. -/
theorem logged_opening (htx : a.transaction? t = some tx) (hlog : tx.Logged t log)
    (b : SpanBuilder) (hparent : ∀ s ∈ parent, s ∈ log.map (·.span)) :
    ∃ tx', (a.perform (.beginSpan t b parent)).transaction? t = some tx' ∧
      tx'.Logged t (log ++ [a.opening t b parent]) := by
  have hlive := live_opening htx b parent
  rcases opening_cases htx b parent with
    ⟨place, id, hadmission, htx', heq⟩ | ⟨reason, hadmission, htx', heq⟩
  · obtain ⟨hbudget, -⟩ := Transaction.admitted hadmission
    obtain ⟨hsampled, -⟩ := Transaction.live_of_admission (t := tx) (by rw [hadmission]; simp)
    have hgrows : tx.Grows (tx.openSpan b place id a.now) :=
      Transaction.grows_openSpan b id a.now hbudget
    refine ⟨_, htx', (hlog.mono hgrows).append ?_ ?_ ?_ ?_ ?_⟩
    · refine .recorded tx.spans.size ⟨id, b.leaf, place⟩ ?_ ?_ ?_ ?_
      all_goals simp [heq, Transaction.outlines, Transaction.openSpan, Span.outline]
    · have hadmitted := hlog.admitted
      simpa [heq, Opening.recorded, Transaction.openSpan] using hadmitted
    · simp [heq]
    · exact fun _ => hsampled
    · rw [hlive, Bool.not_eq_true']
      exact fun hended => hended
  · have hgrows : tx.Grows (tx.openStandIn b reason a.now) :=
      Transaction.grows_openStandIn b reason a.now
    refine ⟨_, htx', (hlog.mono hgrows).append ?_ ?_ ?_ ?_ ?_⟩
    · refine .refused tx.standIns.size reason ?_ ?_ ?_
      all_goals simp [heq, Transaction.reasons, Transaction.openStandIn, SpanBuilder.standIn]
    · have hadmitted := hlog.admitted
      simpa [heq, Opening.recorded, Transaction.openStandIn] using hadmitted
    · intro hrefused
      obtain rfl : reason = .maxSpansExceeded := by simpa [heq] using hrefused
      exact hgrows.hasBudget_eq_false (exhausted_of_refused htx hlog hparent hadmission)
    · intro hrefused
      rw [heq] at hrefused
      refine hgrows.sampled.trans (Transaction.live_of_admission (e := a.enclosing t parent) ?_).1
      rw [hadmission]
      simpa using hrefused
    · rw [hlive, Bool.not_eq_true']
      exact fun hended => hended

/-! ### Runs -/

theorem opens_cases (a : Agent) (t : TransactionRef) (act : Action) :
    a.opens t act = [] ∨ ∃ b parent, act = .beginSpan t b parent ∧
      a.opens t act = [a.opening t b parent] := by
  cases act with
  | beginSpan u b parent =>
    by_cases hu : u = t
    · subst hu
      exact .inr ⟨b, parent, rfl, by simp [opens]⟩
    · exact .inl (by simp [opens, hu])
  | _ => exact .inl rfl

/-- A transaction grows with every action. -/
theorem grows_perform (htx : a.transaction? t = some tx) (act : Action) :
    ∃ tx', (a.perform act).transaction? t = some tx' ∧ tx.Grows tx' := by
  obtain ⟨tx', htx', hstep⟩ := (a.perform_moves act).old htx
  exact ⟨tx', htx', hstep.grows⟩

/-- **The log of a run.** -/
theorem openings_logged (actions : List Action) (htx : a.transaction? t = some tx)
    (hlog : tx.Logged t log) (hpairs : log.Pairwise Opening.Precedes)
    (hparents : Opening.ParentsKnown (log.map (·.span)) (a.openings t actions)) :
    ∃ tx', (actions.foldl perform a).transaction? t = some tx' ∧ tx.Grows tx' ∧
      tx'.Logged t (log ++ a.openings t actions) ∧
      (log ++ a.openings t actions).Pairwise Opening.Precedes := by
  induction actions generalizing a tx log with
  | nil =>
    rw [openings, List.append_nil]
    exact ⟨tx, htx, .refl tx, hlog, hpairs⟩
  | cons act rest ih =>
    obtain ⟨tx', htx', hgrows⟩ := grows_perform htx act
    rw [List.foldl_cons]
    rw [openings] at hparents ⊢
    rcases a.opens_cases t act with hopens | ⟨b, parent, rfl, hopens⟩
    · rw [hopens, List.nil_append] at hparents ⊢
      obtain ⟨tx'', htx'', hgrows', hresult⟩ := ih htx' (hlog.mono hgrows) hpairs hparents
      exact ⟨tx'', htx'', hgrows.trans hgrows', hresult⟩
    · rw [hopens, List.singleton_append] at hparents
      obtain ⟨hparent, hparents⟩ := hparents
      obtain ⟨tx'', htx'', hlogged⟩ := logged_opening htx hlog b hparent
      obtain rfl := Option.some.inj (htx'.symm.trans htx'')
      have hpairs' : (log ++ [a.opening t b parent]).Pairwise Opening.Precedes := by
        rw [List.pairwise_append]
        refine ⟨hpairs, List.pairwise_singleton _ _, fun p hp o ho => ?_⟩
        obtain rfl := List.mem_singleton.mp ho
        exact precedes_opening htx hlog hp b parent
      obtain ⟨tx'', htx'', hgrows', hresult⟩ := ih htx' hlogged hpairs' (by
        rw [List.map_append]
        exact hparents)
      rw [hopens]
      rw [List.append_assoc] at hresult
      exact ⟨tx'', htx'', hgrows.trans hgrows', hresult⟩

theorem grows_foldl (htx : a.transaction? t = some tx) (actions : List Action) :
    ∃ tx', (actions.foldl perform a).transaction? t = some tx' ∧ tx.Grows tx' := by
  induction actions generalizing a tx with
  | nil => exact ⟨tx, htx, .refl tx⟩
  | cons act rest ih =>
    obtain ⟨tx', htx', hgrows⟩ := grows_perform htx act
    obtain ⟨tx'', htx'', hgrows'⟩ := ih htx'
    exact ⟨tx'', htx'', hgrows.trans hgrows'⟩

/-- Every call that is logged was made at some moment of the run. -/
theorem exists_of_mem_openings {actions : List Action} (htx : a.transaction? t = some tx)
    (ho : o ∈ a.openings t actions) :
    ∃ (a' : Agent) (tx' : Transaction) (b : SpanBuilder) (parent : Option SpanHandle),
      a'.transaction? t = some tx' ∧ tx.Grows tx' ∧ o = a'.opening t b parent := by
  induction actions generalizing a tx with
  | nil => cases ho
  | cons act rest ih =>
    rw [openings, List.mem_append] at ho
    rcases ho with ho | ho
    · rcases a.opens_cases t act with hopens | ⟨b, parent, -, hopens⟩ <;> rw [hopens] at ho
      · cases ho
      · exact ⟨a, tx, b, parent, htx, .refl tx, List.mem_singleton.mp ho⟩
    · obtain ⟨tx', htx', hgrows⟩ := grows_perform htx act
      obtain ⟨a', tx'', b, parent, htx'', hgrows', heq⟩ := ih htx' ho
      exact ⟨a', tx'', b, parent, htx'', hgrows.trans hgrows', heq⟩

theorem openings_append (a : Agent) (t : TransactionRef) (actions more : List Action) :
    a.openings t (actions ++ more) =
      a.openings t actions ++ (actions.foldl perform a).openings t more := by
  induction actions generalizing a with
  | nil => rfl
  | cons act rest ih => simp only [List.cons_append, openings, ih, List.foldl_cons,
      List.append_assoc]

/-- After a transaction has ended no span is recorded in it. -/
theorem refusal_of_mem_openings {actions : List Action} (htx : a.transaction? t = some tx)
    (hended : tx.ended = true) (ho : o ∈ a.openings t actions) :
    o.refusal = some .notRecording := by
  obtain ⟨a', tx', b, parent, htx', hgrows, rfl⟩ := exists_of_mem_openings htx ho
  exact refusal_opening_of_ended htx' (hgrows.ended hended) b parent

theorem ended_finishTransaction (htx : a.transaction? t = some tx) (result name : Option String) :
    ∃ tx', (a.perform (.finishTransaction t result name)).transaction? t = some tx' ∧
      tx'.ended = true := by
  cases hended : tx.ended with
  | true =>
    refine ⟨tx, ?_, hended⟩
    simp only [perform, finishTransaction, htx, hended, if_true]
    exact htx
  | false =>
    refine ⟨(tx.finish result name a.now).1, ?_, tx.ended_finish result name a.now⟩
    simp only [perform, finishTransaction, htx, hended, Bool.false_eq_true, if_false]
    rw [transaction?, transactions_enqueueAll, ← transaction?]
    exact transaction?_modifyTransaction htx _

/-- **The laws of the budget, for all runs.** A transaction begins, anything happens, and spans are
opened in the transaction, each beneath none or beneath an earlier one. Then, in the log of these
calls,

* a budget of so many spans admits no more than that;
* once a span was refused for the budget, none is recorded any more;
* such a refusal is counted as dropped, once, and nothing else is;
* whatever lies above a recorded span is recorded and no leaf;
* beneath a recorded leaf, spans are refused for the leaf, and beneath a span refused for the budget
  they are refused for the budget, as long as the transaction has not ended;
* once it has ended no span is recorded. -/
theorem run_keeps_budget (a : Agent) (b : TransactionBuilder) (actions : List Action)
    (hparents : Opening.ParentsKnown []
      ((a.beginTransaction b).1.openings (a.beginTransaction b).2 actions)) :
    let begun := (a.beginTransaction b).1
    let t := (a.beginTransaction b).2
    let log := begun.openings t actions
    (0 < a.config.current.maxSpans → log.countP (·.recorded) ≤ a.config.current.maxSpans) ∧
    log.Pairwise (fun earlier later => earlier.refusal = some .maxSpansExceeded →
      later.recorded = false) ∧
    (∀ o ∈ log, o.after = ⟨o.before.started,
      o.before.dropped + if o.refusal = some .maxSpansExceeded then 1 else 0⟩) ∧
    (∀ i j p o, Opening.Beneath log i j → log[i]? = some p → log[j]? = some o →
      (o.recorded = true → p.recorded = true ∧ p.leaf = false) ∧
      (o.live = true → p.recorded = true → p.leaf = true → o.refusal = some .leafParent) ∧
      (o.live = true → p.refusal = some .maxSpansExceeded →
        o.refusal = some .maxSpansExceeded)) ∧
    (∀ o ∈ log, o.live = false → o.refusal = some .notRecording) ∧
    ∀ before after result name, actions = before ++ .finishTransaction t result name :: after →
      ∃ late, log = begun.openings t before ++ late ∧
        ∀ o ∈ late, o.refusal = some .notRecording := by
  intro begun t log
  obtain ⟨tx, htx, hnew, hlimits⟩ := a.exists_begun b
  obtain ⟨tx', -, hgrows, hlogged, hpairs⟩ := openings_logged actions htx
    (Transaction.logged_nil hnew.created) .nil hparents
  rw [List.nil_append] at hlogged hpairs
  have hmax : tx'.limits.maxSpans = a.config.current.maxSpans := by
    rw [hgrows.limits, hlimits]
    rfl
  refine ⟨fun hpos => ?_, hpairs.imp fun h => h.exhausted, fun o ho => ?_,
    fun i j p o hbeneath hp ho => ?_, fun o ho hended => ?_, ?_⟩
  · rw [← hmax] at hpos ⊢
    exact hlogged.admitted.trans (hlogged.within hpos)
  · obtain ⟨a', tx'', b', parent, htx'', -, rfl⟩ := exists_of_mem_openings htx ho
    exact after_opening htx'' b' parent
  · have hinherits := Opening.inherits_of_beneath hpairs hbeneath hp ho
    simp only [Opening.recorded, Option.isNone_iff_eq_none]
    exact ⟨hinherits.recorded, hinherits.leaf, fun hlive => hinherits.refused hlive _⟩
  · obtain ⟨a', tx'', b', parent, htx'', -, rfl⟩ := exists_of_mem_openings htx ho
    rw [live_opening htx'', Bool.not_eq_false'] at hended
    exact refusal_opening_of_ended htx'' hended b' parent
  · rintro before after result name rfl
    obtain ⟨tx₁, htx₁, -⟩ := grows_foldl htx before
    obtain ⟨tx₂, htx₂, hended⟩ := ended_finishTransaction htx₁ result name
    refine ⟨_, begun.openings_append t before _, fun o ho => ?_⟩
    exact refusal_of_mem_openings htx₂ hended ho

/-- Two spans use up a budget of two, the second one a leaf. What is opened beneath the leaf, after
it, beneath what was refused, after an end, and after the end of the transaction is refused. -/
theorem run_keeps_budget_of_two :
    let a : Agent := { config := ⟨{ maxSpans := 2 }, 0⟩ }
    let b : TransactionBuilder :=
      { kind := "request", caller := some (.create (.ofNat 1) (.ofNat 9) true) }
    let outer : SpanHandle := .recording 0 0
    let refused : SpanHandle := .standIn 0 1
    let actions : List Action :=
      [.beginSpan 0 {} none, .beginSpan 0 { leaf := true } outer,
        .beginSpan 0 {} (some (.recording 0 1)), .beginSpan 0 {} outer, .beginSpan 0 {} refused,
        .endSpan outer .success, .beginSpan 0 {} none, .finishTransaction 0 none none,
        .beginSpan 0 {} refused]
    let log := (a.beginTransaction b).1.openings (a.beginTransaction b).2 actions
    Opening.ParentsKnown [] log ∧
      log.map (·.refusal) = [none, none, some .leafParent, some .maxSpansExceeded,
        some .maxSpansExceeded, some .maxSpansExceeded, some .notRecording] ∧
      log.countP (·.recorded) ≤ 2 ∧
      log.Pairwise fun earlier later => earlier.refusal = some .maxSpansExceeded →
        later.recorded = false := by
  intro a b outer refused actions log
  have hparents : Opening.ParentsKnown [] log := by decide +kernel
  obtain ⟨hwithin, hexhausted, -⟩ := run_keeps_budget a b actions hparents
  exact ⟨hparents, by decide +kernel, hwithin (by decide), hexhausted⟩

end Agent

end Telemetry
