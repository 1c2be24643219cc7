import Telemetry.Proofs.Agent.Calls
import Telemetry.Proofs.Transaction.Direct

/-!
# The trace of nested calls

What a forest of calls leaves in a transaction can be told without handles, contexts and buffers: by
recursion over the calls, with nothing but the next identifier, the number of spans that were
admitted, and what is known about the place where a call stands. There its span is recorded, beneath
a span or transaction of a certain identifier, or it is refused for a certain reason.

## Main definitions

* `Cover`, `Covers`: the place where calls stand.
* `Calls.trace`: what a forest of calls leaves behind.
* `Transaction.Tells`: one transaction is the other after some calls were reported.
* `Agent.Traced`: one state of the agent is the other after some calls left their trace.

## Main results

* `Covers.verdict`: the place decides as the transaction does.
* `Agent.runCalls_traced`: running calls leaves their trace.
-/

namespace Telemetry

/-! ### Traces -/

/-- A call whose span is recorded. -/
structure TracedCall where
  builder : SpanBuilder
  id : SpanId
  parentId : SpanId

/-- The place where a call stands. -/
inductive Cover
  /-- Spans are recorded, with this identifier as that of their parent. -/
  | within (parentId : SpanId)
  /-- Spans are refused, for this reason. -/
  | hidden (reason : DropReason)

/-- What a transaction and the source of identifiers have counted. -/
structure Tally where
  ids : IdSource
  created : Nat
  dropped : Nat

namespace Tally

/-- One more span is admitted; returns its identifier. -/
def accept (s : Tally) : Tally × SpanId :=
  ({ s with ids := s.ids.spanId.2, created := s.created + 1 }, s.ids.spanId.1)

/-- One more span is refused. -/
def refuse (s : Tally) (reason : DropReason) : Tally :=
  { s with dropped := if reason = .maxSpansExceeded then s.dropped + 1 else s.dropped }

end Tally

/-- Beneath which parent the span of a call is recorded, or why it is not, when so many spans have
been admitted. -/
def Cover.verdict (limit created : Nat) : Cover → Except DropReason SpanId
  | .within parentId =>
    if limit = 0 ∨ created < limit then .ok parentId else .error .maxSpansExceeded
  | .hidden reason => .error reason

/-- The place inside a call whose span is recorded. -/
def Cover.inside (b : SpanBuilder) (id : SpanId) : Cover :=
  if b.leaf then .hidden .leafParent else .within id

/-- What calls leave behind: what is counted afterwards, and the calls whose spans are recorded, in
the order in which they end. -/
def Calls.trace (limit : Nat) : Calls → Cover → Tally → Tally × List TracedCall
  | .done, _, s => (s, [])
  | .wait _ rest, c, s => rest.trace limit c s
  | .call b inner rest, c, s =>
    match c.verdict limit s.created with
    | .ok parentId =>
      let below := inner.trace limit (.inside b s.accept.2) s.accept.1
      let after := rest.trace limit c below.1
      (after.1, below.2 ++ ⟨b, s.accept.2, parentId⟩ :: after.2)
    | .error reason =>
      let below := inner.trace limit (.hidden reason) (s.refuse reason)
      let after := rest.trace limit c below.1
      (after.1, below.2 ++ after.2)

/-! ### Reports -/

namespace Transaction

variable {t t' t'' : Transaction} {calls calls' : List TracedCall}
  {records records' : List SpanRecord}

/-- The record is that of the span of a call. -/
structure Shows (t : Transaction) (c : TracedCall) (r : SpanRecord) : Prop where
  id : r.id = c.id
  parentId : r.parentId = c.parentId
  transactionId : r.transactionId = t.id
  traceId : r.traceId = t.traceId
  name : r.name = c.builder.name
  kind : r.kind = c.builder.kind
  subtype : r.subtype = c.builder.subtype
  action : r.action = c.builder.action
  composite : r.composite = none

/-- One transaction is the other after calls were reported by records. Reports stop once some
duration has overflowed, which takes a refusal for the budget. -/
structure Tells (t : Transaction) (calls : List TracedCall) (records : List SpanRecord)
    (t' : Transaction) : Prop where
  id : t'.id = t.id
  traceId : t'.traceId = t.traceId
  dropped : t.dropped ≤ t'.dropped
  harmless : t'.dropped = t.dropped → t'.overflowed = t.overflowed
  told : t'.overflowed = false → t.overflowed = false ∧
    t'.started = t.started + records.length ∧ List.Forall₂ t.Shows calls records

theorem Shows.congr {c : TracedCall} {r : SpanRecord} (h : t.Shows c r) (hid : t'.id = t.id)
    (htrace : t'.traceId = t.traceId) : t'.Shows c r :=
  { h with
    transactionId := h.transactionId.trans hid.symm
    traceId := h.traceId.trans htrace.symm }

theorem tells_refl (t : Transaction) : Tells t [] [] t :=
  ⟨rfl, rfl, le_rfl, fun _ => rfl, fun h => ⟨h, rfl, .nil⟩⟩

theorem Tells.trans (h : Tells t calls records t') (h' : Tells t' calls' records' t'') :
    Tells t (calls ++ calls') (records ++ records') t'' where
  id := h'.id.trans h.id
  traceId := h'.traceId.trans h.traceId
  dropped := h.dropped.trans h'.dropped
  harmless := by
    intro hsame
    have hle := h.dropped
    have hle' := h'.dropped
    rw [h'.harmless (by omega), h.harmless (by omega)]
  told := by
    intro hov
    obtain ⟨hov', hstarted', hshown'⟩ := h'.told hov
    obtain ⟨hov, hstarted, hshown⟩ := h.told hov'
    refine ⟨hov, ?_, ?_⟩
    · rw [hstarted', hstarted, List.length_append, Nat.add_assoc]
    · exact List.rel_append hshown (hshown'.imp fun _ _ hs => hs.congr h.id.symm h.traceId.symm)

variable {tx : Transaction} {b : SpanBuilder} {place : Option Nat} {id : SpanId} {i : Nat}
  {reason : DropReason} {s : Span} {default : Outcome} {now : Instant} {frames : List Frame}

theorem tells_openSpan (t : Transaction) (b : SpanBuilder) (place : Option Nat) (id : SpanId)
    (now : Instant) : Tells t [] [] (t.openSpan b place id now) :=
  ⟨rfl, rfl, le_rfl, fun _ => rfl, fun h => ⟨h, rfl, .nil⟩⟩

/-- A span that ends tells its call. -/
theorem Direct.tells_endSpan (h : t.Direct) (hlive : t.liveSpan? i = some (s, b.details))
    (default : Outcome) (now : Instant) (frames : List Frame) :
    Tells t [⟨b, s.id, t.parentId s⟩] (t.endSpan i default now frames).2
      (t.endSpan i default now frames).1 := by
  rcases h.endSpan_cases hlive default now frames with ⟨hov, heq⟩ | ⟨hov, heq⟩ <;> rw [heq]
  · refine ⟨rfl, rfl, le_rfl, fun _ => rfl, fun hnone => ?_⟩
    cases hov.symm.trans hnone
  · refine ⟨rfl, rfl, le_rfl, fun _ => rfl, fun _ => ⟨hov, rfl, .cons ?_ .nil⟩⟩
    exact ⟨rfl, rfl, rfl, rfl, rfl, rfl, rfl, rfl, rfl⟩

/-- A stand-in tells nothing, and what happens beneath it is told as if it were not there. -/
theorem Tells.endStandIn (h : Tells (t.openStandIn b reason now) calls records t')
    (hr : t'.standIns[i]? = some (b.standIn reason now)) {default : Outcome} {later : Instant} :
    Tells t calls records (t'.endStandIn i default later) := by
  have hcounted : (t'.endStandIn i default later).dropped = t'.dropped ∧
      (t'.endStandIn i default later).started = t'.started ∧
      (t'.endStandIn i default later).id = t'.id ∧
      (t'.endStandIn i default later).traceId = t'.traceId ∧
      ((t'.endStandIn i default later).overflowed = false → t'.overflowed = false) := by
    rcases t'.endStandIn_eq i default later with heq | ⟨stats, overflowed, heq⟩ <;> rw [heq]
    · exact ⟨rfl, rfl, rfl, rfl, fun hov => hov⟩
    · exact ⟨rfl, rfl, rfl, rfl, fun hov => (Bool.or_eq_false_iff.mp hov).1⟩
  obtain ⟨hdropped, hstarted, hid, htrace, hov⟩ := hcounted
  have hle : (t.openStandIn b reason now).dropped ≤ t'.dropped := h.dropped
  simp only [openStandIn] at hle
  refine ⟨hid.trans h.id, htrace.trans h.traceId, ?_, fun hsame => ?_, fun hnone => ?_⟩
  · rw [hdropped]
    split at hle <;> omega
  · rw [hdropped] at hsame
    have hreason : reason ≠ .maxSpansExceeded := by
      rintro rfl
      rw [if_pos rfl] at hle
      omega
    rw [overflowed_endStandIn hr (if_neg hreason)]
    refine (h.harmless ?_).trans rfl
    simp only [openStandIn, if_neg hreason, hsame]
  · obtain ⟨hclear, hcount, hshown⟩ := h.told (hov hnone)
    exact ⟨hclear, hstarted.trans hcount, hshown.imp fun _ _ hs => hs.congr rfl rfl⟩

end Transaction

/-! ### Places -/

/-- What encloses the calls that are run now, as a handle and as a place. -/
inductive Covers (t : TransactionRef) (tx : Transaction) : Option SpanHandle → Cover → Prop
  | transaction : Covers t tx none (.within tx.id)
  | span (i : Nat) (s : Span) (hs : tx.spans[i]? = some s) :
      Covers t tx (some (.recording t i)) (if s.leaf then .hidden .leafParent else .within s.id)
  | standIn (i : Nat) (r : StandIn) (hr : tx.standIns[i]? = some r) :
      Covers t tx (some (.standIn t i)) (.hidden r.reason)

namespace Covers

variable {a : Agent} {t : TransactionRef} {tx tx' : Transaction} {parent : Option SpanHandle}
  {c : Cover}

theorem mono (h : Covers t tx parent c) (hext : tx.Extends tx') : Covers t tx' parent c := by
  cases h with
  | transaction =>
    rw [← hext.id]
    exact .transaction
  | span i s hs => exact .span i s (hext.span hs)
  | standIn i r hr => exact .standIn i r (hext.standIn hr)

theorem opened (tx : Transaction) (b : SpanBuilder) (place : Option Nat) (id : SpanId)
    (now : Instant) :
    Covers t (tx.openSpan b place id now) (some (.recording t tx.spans.size)) (.inside b id) := by
  obtain ⟨s, hs, rfl, -, hleaf, -⟩ := tx.exists_opened b place id now
  rw [Cover.inside, ← hleaf]
  exact .span _ s hs

theorem refused (tx : Transaction) (b : SpanBuilder) (reason : DropReason) (now : Instant) :
    Covers t (tx.openStandIn b reason now) (some (.standIn t tx.standIns.size)) (.hidden reason) :=
  .standIn _ _ (tx.standIn_opened b reason now)

/-- Where spans are recorded, the budget decides. -/
theorem verdict_within {e : Enclosing} {place : Option Nat} {parentId : SpanId}
    (hdirect : tx.Direct)
    (hfree : e = .transaction ∧ place = none ∨ ∃ i, e = .span i ∧ place = some i)
    (hparent : ∀ tx' s, tx.Extends tx' → s.parent = place → tx'.parentId s = parentId) :
    match (Cover.within parentId).verdict tx.limits.maxSpans tx.created with
    | .ok parentId => ∃ place, tx.admission e = .ok place ∧
      ∀ tx' s, tx.Extends tx' → s.parent = place → tx'.parentId s = parentId
    | .error reason => tx.admission e = .error reason := by
  have hadmission : tx.admission e =
      if tx.hasBudget then .ok place else .error .maxSpansExceeded := by
    rw [Transaction.admission_of_live hdirect.sampled hdirect.live]
    rcases hfree with ⟨rfl, rfl⟩ | ⟨i, rfl, rfl⟩ <;> rfl
  have hbudget : tx.hasBudget = decide (tx.limits.maxSpans = 0 ∨ tx.created < tx.limits.maxSpans) :=
    by simp [Transaction.hasBudget]
  rw [hadmission, hbudget, Cover.verdict]
  by_cases hroom : tx.limits.maxSpans = 0 ∨ tx.created < tx.limits.maxSpans
  · simp only [hroom, if_true, decide_true]
    exact ⟨place, rfl, hparent⟩
  · simp only [hroom, if_false, decide_false, Bool.false_eq_true]

/-- **The place decides as the transaction does.** What is admitted goes by its parent. -/
theorem verdict (h : Covers t tx parent c) (hdirect : tx.Direct)
    (htx : a.transaction? t = some tx) :
    match c.verdict tx.limits.maxSpans tx.created with
    | .ok parentId => ∃ place, tx.admission (a.enclosing t parent) = .ok place ∧
      ∀ tx' s, tx.Extends tx' → s.parent = place → tx'.parentId s = parentId
    | .error reason => tx.admission (a.enclosing t parent) = .error reason := by
  cases h with
  | transaction =>
    refine verdict_within hdirect (.inl ⟨rfl, rfl⟩) fun tx' s hext hs => ?_
    simp only [Transaction.parentId, hs, Option.bind_none, hext.id]
  | span i p hp =>
    rw [Agent.enclosing_recording htx hp]
    cases hleaf : p.leaf with
    | true => exact Transaction.admission_of_live hdirect.sampled hdirect.live
    | false =>
      refine verdict_within hdirect (.inr ⟨i, rfl, rfl⟩) fun tx' s hext hs => ?_
      simp only [Transaction.parentId, hs, Option.bind_some, hext.span hp]
  | standIn i r hr =>
    rw [Agent.enclosing_standIn htx hr]
    exact Transaction.admission_of_live hdirect.sampled hdirect.live

end Covers

/-! ### Runs -/

/-- From one state of the agent to a later one a transaction has told the calls of a trace, and has
counted what the trace says. -/
structure Agent.Traced (a : Agent) (t : TransactionRef) (tx : Transaction)
    (traced : Tally × List TracedCall) (a' : Agent) (tx' : Transaction) : Prop where
  known : a'.transaction? t = some tx'
  direct : tx'.Direct
  extended : tx.Extends tx'
  tally : (⟨a'.ids, tx'.created, tx'.dropped⟩ : Tally) = traced.1
  told : ∃ records, a'.queue = a.queue.putAll (records.map .span) ∧
    tx.Tells traced.2 records tx'

theorem Queue.putAll_append (q : Queue) (events more : List Event) :
    q.putAll (events ++ more) = (q.putAll events).putAll more :=
  List.foldl_append

namespace Agent

variable {a a' a'' : Agent} {t : TransactionRef} {tx tx' tx'' : Transaction}
  {parent : Option SpanHandle} {c : Cover} {s s' : Tally} {calls calls' : List TracedCall}
  {b : SpanBuilder} {traced : Tally × List TracedCall}

theorem Traced.trans (h : Traced a t tx (s, calls) a' tx')
    (h' : Traced a' t tx' (s', calls') a'' tx'') :
    Traced a t tx (s', calls ++ calls') a'' tx'' where
  known := h'.known
  direct := h'.direct
  extended := h.extended.trans h'.extended
  tally := h'.tally
  told := by
    obtain ⟨records, hqueue, htold⟩ := h.told
    obtain ⟨records', hqueue', htold'⟩ := h'.told
    refine ⟨records ++ records', ?_, htold.trans htold'⟩
    rw [hqueue', hqueue, List.map_append, Queue.putAll_append]

theorem inSpan_of_captured {h : SpanHandle} (hspan : (a.captureSpan b).2.span = h)
    (body : Agent → Agent) : (a.inSpan b fun a _ => (body a, ())).1 =
      (body (a.captureSpan b).1).leaveScope ⟨h, (a.captureSpan b).2.guard⟩ .success := by
  subst hspan
  rfl

/-- Only the queue counts of what was there before. -/
theorem Traced.congr (h : Traced a t tx traced a' tx') (hqueue : a''.queue = a.queue) :
    Traced a'' t tx traced a' tx' :=
  { h with told := hqueue ▸ h.told }

/-- When the scope of a recorded span is left, the span ends and is told. -/
theorem Traced.leave_recorded {place : Option Nat} {id parentId : SpanId} {now : Instant}
    (h : Traced a t (tx.openSpan b place id now) traced a' tx')
    (hparent : ∀ tx' s, tx.Extends tx' → s.parent = place → tx'.parentId s = parentId)
    (g : Guard) :
    ∃ tx'', Traced a t tx (traced.1, traced.2 ++ [⟨b, id, parentId⟩])
      (a'.leaveScope ⟨.recording t tx.spans.size, g⟩ .success) tx'' := by
  obtain ⟨s, hs, rfl, hplace, -, hdetails⟩ := tx.exists_opened b place id now
  have hlive : tx'.liveSpan? tx.spans.size = some (s, b.details) :=
    Transaction.liveSpan?_eq_some_iff.mpr ⟨h.extended.span hs, hdetails⟩
  have hparentId : tx'.parentId s = parentId :=
    hparent tx' s ((tx.extends_openSpan b place s.id now).trans h.extended) hplace
  obtain ⟨frames, hknown, hids, hqueue⟩ := leaveScope_recording h.known hlive g .success
  obtain ⟨hdirect, hclosed, hcreated, hdropped⟩ :=
    h.direct.endSpan hlive .success a'.now frames
  obtain ⟨records, hqueue', htold⟩ := h.told
  have htells := h.direct.tells_endSpan hlive .success a'.now frames
  rw [hparentId] at htells
  refine ⟨_, hknown, hdirect, h.extended.closeSpan.trans hclosed, ?_, _, ?_,
    ((tx.tells_openSpan b place s.id now).trans htold).trans htells⟩
  · rw [hids, hcreated, hdropped, h.tally]
  · rw [hqueue, hqueue', List.nil_append, List.map_append, Queue.putAll_append]

/-- When the scope of a stand-in is left, nothing is told. -/
theorem Traced.leave_refused {reason : DropReason} {now : Instant}
    (h : Traced a t (tx.openStandIn b reason now) traced a' tx') (g : Guard) :
    ∃ tx'', Traced a t tx traced
      (a'.leaveScope ⟨.standIn t tx.standIns.size, g⟩ .success) tx'' := by
  obtain ⟨hknown, hids, hqueue⟩ := leaveScope_standIn h.known tx.standIns.size g .success
  obtain ⟨hcreated, hdropped⟩ := tx'.counts_endStandIn tx.standIns.size .success a'.now
  obtain ⟨records, hqueue', htold⟩ := h.told
  refine ⟨_, hknown, h.direct.endStandIn _ _ _, h.extended.endStandIn _ _, ?_, records, ?_, ?_⟩
  · rw [hids, hcreated, hdropped, h.tally]
  · rw [hqueue, hqueue']
  · exact htold.endStandIn (h.extended.standIn (tx.standIn_opened b reason now))

/-- A call whose span is recorded: what runs inside it runs beneath the span. -/
theorem traced_inSpan_recorded (body : Agent → Agent) (traced : Tally × List TracedCall)
    {place : Option Nat} {parentId : SpanId} (hcontext : a.context = ⟨some t, parent⟩)
    (htx : a.transaction? t = some tx) (hlive : tx.ended = false)
    (hroom : a.contexts.saved.size + 1 < ContextStack.limit)
    (hadmission : tx.admission (a.enclosing t parent) = .ok place)
    (hparent : ∀ tx' s, tx.Extends tx' → s.parent = place → tx'.parentId s = parentId)
    (hbody : ∀ inside, inside.context = ⟨some t, some (.recording t tx.spans.size)⟩ →
      inside.contexts.saved.size = a.contexts.saved.size + 1 →
      inside.transaction? t = some (tx.openSpan b place a.ids.spanId.1 a.now) →
      inside.ids = a.ids.spanId.2 →
      ∃ tx', Traced inside t (tx.openSpan b place a.ids.spanId.1 a.now) traced (body inside) tx') :
    ∃ tx', Traced a t tx (traced.1, traced.2 ++ [⟨b, a.ids.spanId.1, parentId⟩])
      (a.inSpan b fun a _ => (body a, ())).1 tx' := by
  obtain ⟨hspan, hinside, hsize, hids, haside⟩ :=
    captureSpan_of_current hcontext htx hlive hroom b
  rw [beginSpanIn_of_admitted htx hadmission] at hspan hinside hids haside
  have hknown : (a.captureSpan b).1.transaction? t =
      some (tx.openSpan b place a.ids.spanId.1 a.now) := by
    rw [transaction?, haside.transactions]
    exact transaction?_modifyTransaction (a := a.freshSpanId.1) htx _
  obtain ⟨tx', htraced⟩ := hbody _ hinside hsize hknown hids
  have hqueue : a.queue = (a.captureSpan b).1.queue := haside.queue.symm
  rw [inSpan_of_captured hspan]
  exact (htraced.congr hqueue).leave_recorded hparent _

/-- A call whose span is refused: what runs inside it runs beneath the stand-in. -/
theorem traced_inSpan_refused (body : Agent → Agent) (traced : Tally × List TracedCall)
    {reason : DropReason} (hcontext : a.context = ⟨some t, parent⟩)
    (htx : a.transaction? t = some tx) (hlive : tx.ended = false)
    (hroom : a.contexts.saved.size + 1 < ContextStack.limit)
    (hadmission : tx.admission (a.enclosing t parent) = .error reason)
    (hbody : ∀ inside, inside.context = ⟨some t, some (.standIn t tx.standIns.size)⟩ →
      inside.contexts.saved.size = a.contexts.saved.size + 1 →
      inside.transaction? t = some (tx.openStandIn b reason a.now) → inside.ids = a.ids →
      ∃ tx', Traced inside t (tx.openStandIn b reason a.now) traced (body inside) tx') :
    ∃ tx', Traced a t tx traced (a.inSpan b fun a _ => (body a, ())).1 tx' := by
  obtain ⟨hspan, hinside, hsize, hids, haside⟩ :=
    captureSpan_of_current hcontext htx hlive hroom b
  obtain ⟨ns, heq⟩ := beginSpanIn_of_refused (b := b) htx hadmission
  rw [heq] at hspan hinside hids haside
  have hknown : (a.captureSpan b).1.transaction? t = some (tx.openStandIn b reason a.now) := by
    rw [transaction?, haside.transactions, transactions_noteAll]
    exact transaction?_modifyTransaction htx _
  obtain ⟨tx', htraced⟩ := hbody _ hinside hsize hknown (hids.trans (ids_noteAll _ _))
  have hqueue : a.queue = (a.captureSpan b).1.queue :=
    (haside.queue.trans (queue_noteAll _ _)).symm
  rw [inSpan_of_captured hspan]
  exact (htraced.congr hqueue).leave_refused _

/-- **Running calls leaves their trace.** -/
theorem runCalls_traced (calls : Calls) (hcontext : a.context = ⟨some t, parent⟩)
    (htx : a.transaction? t = some tx) (hdirect : tx.Direct) (hcover : Covers t tx parent c)
    (hroom : a.contexts.saved.size + calls.depth < ContextStack.limit) :
    ∃ tx', Traced a t tx (calls.trace tx.limits.maxSpans c ⟨a.ids, tx.created, tx.dropped⟩)
      (a.runCalls calls) tx' := by
  induction calls generalizing a tx parent c with
  | done =>
    exact ⟨tx, htx, hdirect, .refl tx, rfl, [], rfl, tx.tells_refl⟩
  | wait d rest ih =>
    obtain ⟨tx', htraced⟩ := ih (a := a.advance d) hcontext htx hdirect hcover hroom
    exact ⟨tx', htraced.congr rfl⟩
  | call b inner rest ihInner ihRest =>
    simp only [Calls.depth] at hroom
    have hverdict := hcover.verdict hdirect htx
    have hsame := contexts_inSpan (a := a) b (fun a _ => (a.runCalls inner, ())) (by omega)
      fun inside _ hsize => contexts_runCalls (by omega)
    -- What comes after a call finds the transaction extended and the contexts as they were.
    have hrest : ∀ {traced : Tally × List TracedCall} {tx'},
        Traced a t tx traced (a.inSpan b fun a _ => (a.runCalls inner, ())).1 tx' →
        ∃ tx'', Traced a t tx ((rest.trace tx.limits.maxSpans c traced.1).1,
          traced.2 ++ (rest.trace tx.limits.maxSpans c traced.1).2)
          (a.runCalls (.call b inner rest)) tx'' := by
      intro traced tx' htraced
      obtain ⟨tx'', hafter⟩ := ihRest (by rw [context, hsame]; exact hcontext) htraced.known
        htraced.direct (hcover.mono htraced.extended) (by rw [hsame]; omega)
      rw [htraced.tally, htraced.extended.limits] at hafter
      exact ⟨tx'', htraced.trans hafter⟩
    rw [Calls.trace]
    cases hdecision : c.verdict tx.limits.maxSpans tx.created with
    | ok parentId =>
      rw [hdecision] at hverdict
      obtain ⟨place, hadmission, hparent⟩ := hverdict
      obtain ⟨tx', htraced⟩ := traced_inSpan_recorded (·.runCalls inner)
        (inner.trace tx.limits.maxSpans (.inside b a.ids.spanId.1)
          ⟨a.ids.spanId.2, tx.created + 1, tx.dropped⟩)
        hcontext htx hdirect.live (by omega) hadmission hparent
        fun inside hinside hsize hknown hids => by
          have hinner := ihInner hinside hknown (hdirect.openSpan b place _ _)
            (.opened tx b place _ _) (by omega)
          rwa [hids] at hinner
      obtain ⟨tx'', hafter⟩ := hrest htraced
      rw [List.append_assoc] at hafter
      exact ⟨tx'', hafter⟩
    | error reason =>
      rw [hdecision] at hverdict
      obtain ⟨tx', htraced⟩ := traced_inSpan_refused (·.runCalls inner)
        (inner.trace tx.limits.maxSpans (.hidden reason)
          (Tally.refuse ⟨a.ids, tx.created, tx.dropped⟩ reason))
        hcontext htx hdirect.live (by omega) hverdict
        fun inside hinside hsize hknown hids => by
          have hinner := ihInner hinside hknown (hdirect.openStandIn b reason _)
            (.refused tx b reason _) (by omega)
          rwa [hids] at hinner
      exact hrest htraced

end Agent

end Telemetry
