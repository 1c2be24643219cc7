import Telemetry.Proofs.Agent.CallReport
import Telemetry.Proofs.Transaction.Changes
import Telemetry.Proofs.Transaction.Identity

/-!
# What the record of a transaction says

A transaction can be changed until it ends, and it ends once: later calls find it ended. Its record
is made in the call that ends it, of what the changes before that call add up to.

Other things may happen in between, to the spans of the transaction as well, and do not show in
this. Only a span of the transaction that ends could have made a duration overflow.

## Main definitions

* `Action.changeOf?`, `Action.isFinishOf`, `Action.isSpanEndIn`: what an action has to do with a
  transaction.
* `TransactionRecord.Reflects`: a record beside the changes to its transaction.

## Main results

* `Agent.changed_foldl`: changes add up, until the transaction ends.
* `Agent.details_foldl_of_ended`: afterwards nothing changes.
* `Agent.run_reflects_changes`: the record of every transaction.
-/

namespace Telemetry

namespace Action

/-- The change that the action makes to a transaction. -/
def changeOf? (t : TransactionRef) : Action → Option TransactionChange
  | .changeTransaction u c => if u = t then some c else none
  | _ => none

/-- The action ends a transaction, if it has not ended before. -/
def isFinishOf (t : TransactionRef) : Action → Bool
  | .finishTransaction u _ _ => u = t
  | _ => false

/-- The action ends a span of a transaction, or a stand-in for one. -/
def isSpanEndIn (t : TransactionRef) : Action → Bool
  | .endSpan s _ => s.transaction? = some t
  | _ => false

theorem changeOf?_eq_some_iff {t : TransactionRef} {act : Action} {c : TransactionChange} :
    act.changeOf? t = some c ↔ act = .changeTransaction t c := by
  cases act <;> simp [changeOf?]

theorem isFinishOf_iff {t : TransactionRef} {act : Action} :
    act.isFinishOf t = true ↔ ∃ result name, act = .finishTransaction t result name := by
  cases act <;> simp [isFinishOf]

end Action

/-! ### One transaction -/

namespace Transaction

variable {t : Transaction} {now : Instant} {result name : Option String}

@[simp] theorem details_reportAll (l : List FinishedSpan) :
    (t.reportAll l).1.details = t.details := by
  obtain ⟨_, _, _, _, heq⟩ := t.reportAll_frame l
  rw [heq]

@[simp] theorem ended_reportAll (l : List FinishedSpan) : (t.reportAll l).1.ended = t.ended := by
  obtain ⟨_, _, _, _, heq⟩ := t.reportAll_frame l
  rw [heq]

@[simp] theorem details_offer (parent : Option Nat) (f : FinishedSpan) :
    (t.offer parent f).1.details = t.details := by
  obtain ⟨_, _, _, heq⟩ := t.offer_eq parent f
  rw [heq]

@[simp] theorem ended_offer (parent : Option Nat) (f : FinishedSpan) :
    (t.offer parent f).1.ended = t.ended := by
  obtain ⟨_, _, _, heq⟩ := t.offer_eq parent f
  rw [heq]

/-- The end of a span is no change to its transaction. -/
theorem details_endSpan (i : Nat) (default : Outcome) (now : Instant) (frames : List Frame) :
    (t.endSpan i default now frames).1.details = t.details ∧
      (t.endSpan i default now frames).1.ended = t.ended := by
  cases hlive : t.liveSpan? i with
  | none => simp only [endSpan, hlive, and_self]
  | some sd =>
    rw [endSpan_of_live hlive]
    simp only [details_reportAll, ended_reportAll, details_offer, ended_offer]
    exact ⟨rfl, rfl⟩

/-- Nothing was offered to the buffer of the transaction, and no duration overflowed. -/
structure Calm (t : Transaction) : Prop where
  slot : t.buffer.slot = none
  overflowed : t.overflowed = false

/-- Where nothing is held, nothing can overflow when the transaction ends. -/
theorem Calm.overflowed_finish (h : t.Calm) (hlive : t.ended = false) :
    (t.finish result name now).1.overflowed = false := by
  rw [finish_of_not_ended hlive, h.slot]
  exact (overflowed_forgetContext _).trans h.overflowed

/-- What can be read of a transaction after it has ended. -/
theorem details_finish (hlive : t.ended = false) (result name : Option String) (now : Instant) :
    let ended := (t.finish result name now).1
    ended.ended = true ∧ ended.details.name = name.getD t.details.name ∧
      ended.details.result = result.or t.details.result ∧
      ended.details.outcome = t.details.outcome := by
  intro ended
  have heq : ended =
      ((t.closeAtEnd result name).reportAll t.buffer.slot.toList).1.forgetContext := by
    simp only [ended, finish_of_not_ended hlive]
  have hdetails := (t.closeAtEnd result name).details_reportAll t.buffer.slot.toList
  have hended := (t.closeAtEnd result name).ended_reportAll t.buffer.slot.toList
  rw [heq, forgetContext]
  split
  · dsimp only
    rw [hended, hdetails]
    exact ⟨rfl, rfl, rfl, rfl⟩
  · rw [hended, hdetails]
    exact ⟨rfl, rfl, rfl, rfl⟩

end Transaction

/-- A record beside the transaction as it began, the changes that were made to it, and what was said
when it ended. -/
structure TransactionRecord.Reflects (r : TransactionRecord) (begun : Transaction)
    (changes : List TransactionChange) (result name : Option String) : Prop where
  id : r.id = begun.id
  traceId : r.traceId = begun.traceId
  sampled : r.sampled = begun.sampled
  /-- The name that was given at the end, or else the last one that was set. -/
  name : r.name = name.getD ((changes.filterMap (·.name?)).getLast?.getD "")
  /-- The result that was given at the end, or else the last one that was set. -/
  result : r.result = result.or (changes.filterMap (·.result?)).getLast?
  /-- The last outcome that was set. -/
  outcome : r.outcome = (changes.filterMap (·.outcome?)).getLast?.getD .unknown
  /-- The links that it began with, and those that were added. -/
  links : r.links = begun.details.links ++ changes.filterMap (·.link?)
  /-- Without a sample there is no context. -/
  unsampled : begun.sampled = false → r.context = none
  /-- There is none either if nothing was set. -/
  empty : begun.sampled = true → (r.context = none ↔
    changes.any (·.setsObject) = false ∧ changes.any (·.setsLabel) = false)
  /-- A context carries what was set. -/
  context : ∀ context, r.context = some context → context.Carries changes

namespace Transaction

variable {t begun : Transaction} {now : Instant} {result name : Option String}
  {changes : List TransactionChange}

/-- **The record of a transaction that ends** reflects what was changed since it began. -/
theorem finish_reflects (hlive : t.ended = false) (htrace : begun.SameTrace t)
    (hfresh : begun.details = { links := begun.details.links })
    (hdetails : t.details = begun.details.afterAll changes) (hproper : ∀ c ∈ changes, c.IsProper)
    (hov : (t.finish result name now).1.overflowed = false) :
    ∃ (records : List SpanRecord) (r : TransactionRecord),
      (t.finish result name now).2 = records.map .span ++ [.transaction r] ∧
      r.Reflects begun changes result name := by
  obtain ⟨-, _, stats, -, hevents⟩ := finish_eq hlive hov
  have hname : begun.details.name = "" := by rw [hfresh]
  have hresult : begun.details.result = none := by rw [hfresh]
  have houtcome : begun.details.outcome = none := by rw [hfresh]
  have hcontext : begun.details.context = [] := by rw [hfresh]
  have hlabels : begun.details.labels = [] := by rw [hfresh]
  have hsampled : t.sampled = begun.sampled := by
    rw [sampled, htrace.context]
    rfl
  -- the end itself changes the name and the result, and nothing that the context is made of
  have hreport : ∀ context, (if t.sampled then ContextData.report t.details.fullContext else none) =
      some context → context.Carries changes := by
    intro context h
    obtain ⟨-, h⟩ := Option.ite_none_right_eq_some.mp h
    obtain ⟨-, rfl⟩ : _ ∧ t.details.fullContext = context := by
      simpa [ContextData.report] using h
    rw [hdetails]
    exact Details.carries_fullContext hcontext hlabels hproper
  refine ⟨_, _, hevents, ?_⟩
  constructor
  case id => exact htrace.id
  case traceId => exact (congrArg TraceParent.traceId htrace.context).trans rfl
  case sampled => exact hsampled
  case name =>
    change name.getD t.details.name = _
    rw [hdetails, Details.name_afterAll, hname]
  case result =>
    change result.or t.details.result = _
    rw [hdetails, Details.result_afterAll, hresult, Option.or_none]
  case outcome =>
    change t.details.outcome.getD .unknown = _
    rw [hdetails, Details.outcome_afterAll, houtcome, Option.or_none]
  case links =>
    change t.details.links = _
    rw [hdetails, Details.links_afterAll]
  case unsampled =>
    intro h
    change (if t.sampled then ContextData.report t.details.fullContext else none) = none
    rw [hsampled, h, if_neg Bool.false_ne_true]
  case empty =>
    intro h
    change (if t.sampled then ContextData.report t.details.fullContext else none) = none ↔ _
    rw [hsampled, h, if_pos rfl, hdetails]
    exact Details.report_fullContext_eq_none_iff hcontext hlabels
  case context => exact hreport

end Transaction

/-! ### One action -/

namespace Agent

variable {a : Agent} {t : TransactionRef} {tx tx' : Transaction} {act : Action}
  {actions : List Action} {result name : Option String}

/-- What an action makes of a transaction that it neither changes nor ends. Only the end of a span
may leave something behind. -/
structure Spares (tx : Transaction) (endsSpan : Bool) (tx' : Transaction) : Prop where
  details : tx'.details = tx.details
  ended : tx'.ended = tx.ended
  calm : endsSpan = false → tx.Calm → tx'.Calm

theorem spares_of_eq {endsSpan : Bool} (hdetails : tx'.details = tx.details)
    (hended : tx'.ended = tx.ended) (hbuffer : tx'.buffer = tx.buffer)
    (hoverflowed : tx'.overflowed = tx.overflowed) : Spares tx endsSpan tx' :=
  ⟨hdetails, hended, fun _ hcalm => ⟨hbuffer ▸ hcalm.slot, hoverflowed ▸ hcalm.overflowed⟩⟩

theorem Spares.refl (tx : Transaction) (endsSpan : Bool) : Spares tx endsSpan tx :=
  spares_of_eq rfl rfl rfl rfl

theorem spares_endSpan (s : SpanHandle) (default : Outcome) :
    Spares tx (Action.isSpanEndIn t (.endSpan s default)) (a.turn t tx (.endSpan s default)) := by
  cases s with
  | detached => exact .refl tx _
  | recording u i =>
    simp only [turn]
    split
    · obtain ⟨hdetails, hended⟩ := tx.details_endSpan i default a.now (a.framesFor tx i)
      exact ⟨hdetails, hended,
        fun h => by simp [Action.isSpanEndIn, SpanHandle.transaction?, *] at h⟩
    · exact .refl tx _
  | standIn u i =>
    simp only [turn]
    split
    · rcases tx.endStandIn_eq i default a.now with heq | ⟨_, _, heq⟩ <;> rw [heq]
      · exact .refl tx _
      · exact ⟨rfl, rfl, fun h => by simp [Action.isSpanEndIn, SpanHandle.transaction?, *] at h⟩
    · exact .refl tx _

/-- What neither changes nor ends a transaction spares it. -/
theorem spares_turn (a : Agent) (tx : Transaction) (hchange : act.changeOf? t = none)
    (hfinish : act.isFinishOf t = false) :
    Spares tx (act.isSpanEndIn t) (a.turn t tx act) := by
  cases act with
  | changeTransaction u c =>
    have hut : ¬u = t := by simpa [Action.changeOf?] using hchange
    simp only [turn, if_neg hut]
    exact .refl tx _
  | finishTransaction u result name =>
    have hut : ¬u = t := by simpa [Action.isFinishOf] using hfinish
    simp only [turn, if_neg hut]
    exact .refl tx _
  | endSpan s default => exact spares_endSpan s default
  | ensureParentId u =>
    simp only [turn]
    split
    · split <;> exact spares_of_eq rfl rfl rfl rfl
    · exact .refl tx _
  | beginSpan u b parent =>
    simp only [turn]
    split
    · split <;> exact spares_of_eq rfl rfl rfl rfl
    · exact .refl tx _
  | changeSpan s c =>
    cases s with
    | recording u i => simp only [turn]; split <;> exact spares_of_eq rfl rfl rfl rfl
    | standIn u i =>
      cases c with
      | outcome => simp only [turn]; split <;> exact spares_of_eq rfl rfl rfl rfl
      | name | context | label | link => exact .refl tx _
    | detached => exact .refl tx _
  | outboundOfSpan s =>
    cases s with
    | recording u i =>
      simp only [turn, Transaction.outboundOf]
      split
      · split <;> exact spares_of_eq rfl rfl rfl rfl
      · exact .refl tx _
    | standIn | detached => exact .refl tx _
  | _ => exact .refl tx _

/-- A change is made to the details of a transaction that has not ended. -/
theorem turn_changeTransaction (hlive : tx.ended = false) (c : TransactionChange) :
    a.turn t tx (.changeTransaction t c) = { tx with details := c.apply tx.details } := by
  simp [turn, Transaction.revise, hlive]

/-! ### Runs -/

/-- A transaction that has not ended, further on. -/
structure Changed (tx : Transaction) (changes : List TransactionChange) (calm : Prop)
    (tx' : Transaction) : Prop where
  live : tx'.ended = false
  details : tx'.details = tx.details.afterAll changes
  calm : calm → tx.Calm → tx'.Calm

/-- **Changes add up**, until the transaction ends. -/
theorem changed_foldl (htx : a.transaction? t = some tx) (hlive : tx.ended = false)
    (hactions : ∀ act ∈ actions, act.isFinishOf t = false) :
    ∃ tx', (actions.foldl perform a).transaction? t = some tx' ∧
      Changed tx (actions.filterMap (·.changeOf? t)) (∀ act ∈ actions, act.isSpanEndIn t = false)
        tx' := by
  induction actions generalizing a tx with
  | nil => exact ⟨tx, htx, hlive, rfl, fun _ h => h⟩
  | cons act rest ih =>
    obtain ⟨hact, hrest⟩ := List.forall_mem_cons.mp hactions
    have hstep := transaction?_perform htx act
    cases hchange : act.changeOf? t with
    | none =>
      have hspares := spares_turn a tx hchange hact
      obtain ⟨tx', htx', hchanged⟩ := ih hstep (hspares.ended.trans hlive) hrest
      refine ⟨tx', htx', hchanged.live, ?_, fun hquiet hcalm => ?_⟩
      · rw [List.filterMap_cons_none hchange, hchanged.details, hspares.details]
      · obtain ⟨hquiet, hothers⟩ := List.forall_mem_cons.mp hquiet
        exact hchanged.calm hothers (hspares.calm hquiet hcalm)
    | some c =>
      obtain rfl := Action.changeOf?_eq_some_iff.mp hchange
      rw [turn_changeTransaction hlive] at hstep
      obtain ⟨tx', htx', hchanged⟩ := ih hstep hlive hrest
      refine ⟨tx', htx', hchanged.live, ?_, fun hquiet hcalm => ?_⟩
      · rw [List.filterMap_cons_some hchange, hchanged.details]
        rfl
      · exact hchanged.calm (List.forall_mem_cons.mp hquiet).2 ⟨hcalm.slot, hcalm.overflowed⟩

/-- **After the end nothing changes** any more. -/
theorem details_foldl_of_ended (htx : a.transaction? t = some tx) (hended : tx.ended = true)
    (actions : List Action) :
    ∃ tx', (actions.foldl perform a).transaction? t = some tx' ∧ tx'.ended = true ∧
      tx'.details = tx.details := by
  induction actions generalizing a tx with
  | nil => exact ⟨tx, htx, hended, rfl⟩
  | cons act rest ih =>
    have hstep := transaction?_perform htx act
    have hsame : (a.turn t tx act).ended = true ∧ (a.turn t tx act).details = tx.details := by
      cases hchange : act.changeOf? t with
      | some c =>
        obtain rfl := Action.changeOf?_eq_some_iff.mp hchange
        simp [turn, Transaction.revise, hended]
      | none =>
        cases hfinish : act.isFinishOf t with
        | true =>
          obtain ⟨result, name, rfl⟩ := Action.isFinishOf_iff.mp hfinish
          simp [turn, Transaction.finish, hended]
        | false =>
          have hspares := spares_turn a tx hchange hfinish
          exact ⟨hspares.ended.trans hended, hspares.details⟩
    obtain ⟨tx', htx', hended', hdetails⟩ := ih hstep hsame.1
    exact ⟨tx', htx', hended', hdetails.trans hsame.2⟩

/-! ### From the beginning to the end -/

/-- A transaction begins with nothing but links, if any. -/
theorem exists_fresh (a : Agent) (b : TransactionBuilder) :
    ∃ tx, (a.beginTransaction b).1.transaction? (a.beginTransaction b).2 = some tx ∧ tx.IsNew ∧
      tx.details = { links := tx.details.links } := by
  obtain ⟨htransactions, -⟩ := aside_traceFor a.freshSpanId.1 b a.freshSpanId.2
  generalize hr : a.freshSpanId.1.traceFor b a.freshSpanId.2 = r at htransactions
  refine ⟨.create a.freshSpanId.2 b.kind r.2.1 r.2.2.1 r.2.2.2 b.start a.config.current.limits
    r.1.now r.1.wall, ?_, Transaction.isNew_create .., rfl⟩
  simp only [beginTransaction, hr, transaction?]
  split <;> exact Array.getElem?_push_size

theorem calm_of_isNew (h : tx.IsNew) : tx.Calm := ⟨h.slot, h.overflowed⟩

/-- What a call that ends a transaction does, the first time. -/
theorem finishTransaction_of_live (htx : a.transaction? t = some tx) (hlive : tx.ended = false)
    (result name : Option String) :
    a.finishTransaction t result name =
      ((a.modifyTransaction t fun _ => (tx.finish result name a.now).1).enqueueAll
        (tx.finish result name a.now).2, true) := by
  simp only [finishTransaction, htx, hlive, Bool.false_eq_true, if_false]

/-- Later calls do nothing but report that they came too late. -/
theorem finishTransaction_of_ended (htx : a.transaction? t = some tx) (hended : tx.ended = true) :
    a.finishTransaction t result name = (a.note (.transactionAlreadyEnded tx.id), false) := by
  simp only [finishTransaction, htx, hended, if_true]

/-- **The record of a transaction is the sum of its changes.** Whatever happens between the
beginning of a transaction and the first call that ends it, that call queues one record of the
transaction, after what was held of its spans, and the record reflects the changes before it. To
change the transaction queues nothing.

Whatever happens afterwards, later calls to end the transaction are refused and queue nothing, and
its name, its result and its outcome can be read as they were.

No duration can overflow in that call if no span of the transaction ended before; if some did, it is
assumed. -/
theorem run_reflects_changes (a : Agent) (b : TransactionBuilder) (before : List Action)
    (result name : Option String)
    (hfirst : ∀ act ∈ before, act.isFinishOf (a.beginTransaction b).2 = false)
    (hproper : ∀ act ∈ before, ∀ c ∈ act.changeOf? (a.beginTransaction b).2, c.IsProper)
    (hsafe : (∀ act ∈ before, act.isSpanEndIn (a.beginTransaction b).2 = false) ∨
      ((before.foldl perform (a.beginTransaction b).1).finishTransaction (a.beginTransaction b).2
        result name).1.overflowed = false) :
    let begun := (a.beginTransaction b).1
    let t := (a.beginTransaction b).2
    let changes := before.filterMap (·.changeOf? t)
    let ending := before.foldl perform begun
    let ended := (ending.finishTransaction t result name).1
    ∃ (tx : Transaction) (records : List SpanRecord) (r : TransactionRecord),
      begun.transaction? t = some tx ∧
      (ending.finishTransaction t result name).2 = true ∧
      ended.queue = ending.queue.putAll (records.map .span ++ [.transaction r]) ∧
      r.Reflects tx changes result name ∧
      (∀ (a' : Agent) c, (a'.changeTransaction t c).queue = a'.queue) ∧
      ∀ after : List Action, let later := after.foldl perform ended
        (∀ result name, (later.finishTransaction t result name).2 = false ∧
          (later.finishTransaction t result name).1.queue = later.queue) ∧
        ∃ tx', later.transaction? t = some tx' ∧ tx'.details.name = r.name ∧
          tx'.details.result = r.result ∧
          tx'.details.outcome = (changes.filterMap (·.outcome?)).getLast? := by
  intro begun t changes ending ended
  obtain ⟨tx, htx, hnew, hfresh⟩ := a.exists_fresh b
  -- one state before the end, followed for what was changed and for its place in the trace
  obtain ⟨tx', htx', hchanged⟩ := changed_foldl htx hnew.ended hfirst
  obtain ⟨tx'', htx'', htrace⟩ := run_sameTrace htx before
  rw [agent_run] at htx''
  obtain rfl := Option.some.inj (htx'.symm.trans htx'')
  have heq := finishTransaction_of_live htx' hchanged.live result name
  have hafter : ended.transaction? t = some (tx'.finish result name ending.now).1 :=
    (transaction?_finishTransaction htx' t result name).trans (congrArg some (if_pos rfl))
  have hov : (tx'.finish result name ending.now).1.overflowed = false := by
    rcases hsafe with hquiet | hov
    · exact (hchanged.calm hquiet (calm_of_isNew hnew)).overflowed_finish hchanged.live
    · exact overflowed_eq_false_iff.mp hov hafter
  have hchanges : ∀ c ∈ changes, c.IsProper := by
    intro c hc
    obtain ⟨act, hact, hchange⟩ := List.mem_filterMap.mp hc
    exact hproper act hact c hchange
  obtain ⟨records, r, hevents, hreflects⟩ :=
    Transaction.finish_reflects hchanged.live htrace hfresh hchanged.details hchanges hov
  refine ⟨tx, records, r, htx, congrArg Prod.snd heq, ?_, hreflects, ?_, fun after => ?_⟩
  · rw [← hevents]
    exact (congrArg (queue ·.1) heq).trans (queue_enqueueAll _ _)
  · intro a' c
    rw [changeTransaction_eq]
    exact queue_reviseTransaction t c.apply
  obtain ⟨hended, hname, hresult, houtcome⟩ :=
    Transaction.details_finish hchanged.live result name ending.now
  -- `last` is the transaction after whatever came later
  obtain ⟨last, hlast, hlastEnded, hsame⟩ := details_foldl_of_ended hafter hended after
  refine ⟨fun result name => ?_, last, hlast, ?_, ?_, ?_⟩
  · rw [finishTransaction_of_ended hlast hlastEnded]
    exact ⟨rfl, rfl⟩
  · rw [hsame, hname, hreflects.name, hchanged.details, Details.name_afterAll, hfresh]
  · rw [hsame, hresult, hreflects.result, hchanged.details, Details.result_afterAll, hfresh,
      Option.or_none]
  · rw [hsame, houtcome, hchanged.details, Details.outcome_afterAll, hfresh, Option.or_none]

/-- A text of some length. -/
def noteOfLength (n : Nat) : String := String.ofList (List.replicate n 'x')

/-- What a shop says of a visit. The two labels for the shop have one searchable key, the list is
kept as a text, and the note is longer than what is kept of it. -/
def visit : List TransactionChange :=
  [.name "GET /cart", .label "shop_id" (.str "3"), .context "user" [("id", .str "a")],
    .outcome .success, .label "shop.id" (.str "4"),
    .label "cart*\"ids\"" (.arr [.num (.int 1), .null]),
    .label "note" (.str (noteOfLength 2000)),
    .context "user" [("name", .str "Ada"), ("id", .str "b")], .outcome .failure]

/-- The visit is reported under the name that is given at the end, with what was said last. -/
theorem run_reflects_changes_visit :
    let b : TransactionBuilder :=
      { kind := "request", caller := some (.create (.ofNat 1) (.ofNat 9) true) }
    let t := (inMemory.beginTransaction b).2
    let before := visit.map (.changeTransaction t)
    let ending := before.foldl perform (inMemory.beginTransaction b).1
    let ended := (ending.finishTransaction t none (some "checkout")).1
    (∀ act ∈ before, act.isFinishOf t = false ∧ act.isSpanEndIn t = false) ∧
    (∀ act ∈ before, ∀ c ∈ act.changeOf? t, c.IsProper) ∧
    ∃ (records : List SpanRecord) (r : TransactionRecord) (context user tags : Fields),
      ended.queue = ending.queue.putAll (records.map .span ++ [.transaction r]) ∧
      r.name = "checkout" ∧ r.outcome = .failure ∧ r.context = some context ∧
      context.get? "user" = some (.obj user) ∧ user.get? "id" = some (.str "b") ∧
      context.get? "tags" = some (.obj tags) ∧
      tags.get? "shop_id" = some (.str "4") ∧ tags.get? "shop.id" = none ∧
      tags.get? "cart__ids_" = some (.str "[1,null]") ∧
      tags.get? "note" = some (.str (noteOfLength 1024)) ∧
      (ended.finishTransaction t none none).2 = false := by
  intro b t before ending ended
  have hquiet : ∀ act ∈ before, act.isFinishOf t = false ∧ act.isSpanEndIn t = false := by
    simp [before, Action.isFinishOf, Action.isSpanEndIn]
  have hproper : ∀ act ∈ before, ∀ c ∈ act.changeOf? t, c.IsProper := by
    simp [before, visit, Action.changeOf?, TransactionChange.IsProper]
  have hchanges : before.filterMap (·.changeOf? t) = visit := by
    simp [before, visit, Action.changeOf?]
  have hsampled : ((inMemory.beginTransaction b).1.transaction? t).map (·.sampled) = some true := by
    decide +kernel
  have hobjects : visit.filterMap (·.object? "user") =
      [[("id", .str "a")], [("name", .str "Ada"), ("id", .str "b")]] := by
    simp [visit, TransactionChange.object?]
  -- of the labels under each key, the one that was set last
  have hshop : (visit.filterMap (·.label? "shop_id")).getLast? = some (.str "4") := rfl
  have hdotted : (visit.filterMap (·.label? "shop.id")).getLast? = none := rfl
  have hcart : (visit.filterMap (·.label? "cart__ids_")).getLast? =
      some (.arr [.num (.int 1), .null]) := rfl
  have hnote : (visit.filterMap (·.label? "note")).getLast? =
      some (.str (noteOfLength 2000)) := rfl
  obtain ⟨tx, records, r, htx, -, hqueue, hreflects, -, hafter⟩ :=
    run_reflects_changes inMemory b before none (some "checkout") (fun act h => (hquiet act h).1)
      hproper (.inl fun act h => (hquiet act h).2)
  have hqueue : ended.queue = ending.queue.putAll (records.map .span ++ [.transaction r]) := by
    simpa only [ended, ending, t] using hqueue
  rw [htx] at hsampled
  rw [hchanges] at hreflects
  obtain ⟨context, hcontext⟩ : ∃ context, r.context = some context := by
    refine Option.ne_none_iff_exists'.mp fun hnone => ?_
    have hsets := ((hreflects.empty (Option.some.inj hsampled)).mp hnone).1
    simp [visit, TransactionChange.setsObject] at hsets
  have hcarries := hreflects.context context hcontext
  obtain ⟨tags, htags, hlabels⟩ := hcarries.tags rfl
  have hlabel {key : String} {last : Option Json}
      (hlast : (visit.filterMap (·.label? key)).getLast? = last) :
      tags.get? key = last.map Label.value :=
    hlast ▸ Label.rel_keeps_iff.mp (hlabels key)
  obtain ⟨user, huser, hfield⟩ := hcarries.merged "user" (by decide +kernel) (by simp [hobjects])
  have hname : r.name = "checkout" := hreflects.name
  have houtcome : r.outcome = .failure := hreflects.outcome
  have hid : user.get? "id" = some (.str "b") := by
    rw [hfield, hobjects]
    simp [Fields.get?]
  have hlate : (ended.finishTransaction t none none).2 = false := ((hafter []).1 none none).1
  have hlist : Label.truncate (Json.arr [.num (.int 1), .null]).compact = "[1,null]" := by
    decide +kernel
  have hcut : Label.truncate (noteOfLength 2000) = noteOfLength 1024 := by
    rw [Label.truncate, noteOfLength, String.toList_ofList, List.take_replicate]
    rfl
  refine ⟨hquiet, hproper, records, r, context, user, tags, hqueue, hname, houtcome, hcontext,
    huser, hid, htags, ?_, hlabel hdotted, ?_, ?_, hlate⟩
  · simp [hlabel hshop, Label.value, Label.truncate, Label.sizeLimit]
  · rw [hlabel hcart, ← hlist]
    rfl
  · rw [hlabel hnote, ← hcut]
    rfl

end Agent

end Telemetry
