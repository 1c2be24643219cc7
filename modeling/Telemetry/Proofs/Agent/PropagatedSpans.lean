import Telemetry.Agent.Current
import Telemetry.Proofs.Agent.Calls
import Telemetry.Proofs.Transaction.Propagated
import Telemetry.Proofs.Transaction.References

/-!
# A span whose identifier was propagated is reported under it

An outgoing call carries the identifier of the span that makes it, be it asked for on the span or on
whatever is current. From then on the span may not be merged, held back or left out. Whatever
happens afterwards, the call that ends the span queues its record, and nothing else is ever released
under its identifier.

## Main definitions

* `Agent.IsLive`: a handle of a recorded span that has not ended.
* `Agent.TellsOf`: the calls through which another service is told about a span.
* `History.run`.

## Main results

* `Agent.propagated_of_told`: the mark stays until the span ends.
* `Agent.endSpan_of_propagated`: the call that ends a marked span.
* `Agent.run_reports_propagated`: such a span is reported once, by itself, when it ends.
-/

namespace Telemetry

/-! ### Ledgers -/

namespace Ledger

variable {L : Ledger} {t : TransactionRef} {id : SpanId}

theorem records_filter_id (L : Ledger) (id : SpanId) :
    (records L).filter (·.id = id) =
      ((L.filter (·.2.span.record.id = id)).filter (·.2.reported)).map (·.2.span.toRecord) := by
  rw [records, Journal.records, List.filter_map, List.filter_map, List.filter_map,
    List.filter_filter, List.filter_filter, List.map_map]
  simp only [Function.comp_def, Bool.and_comm]
  rfl

/-- Where one transaction alone releases under an identifier, and it does so once at most. -/
theorem length_filter_id_le (hids : (FinishedSpan.ids ((journal L t).map (·.span))).Nodup)
    (hothers : ∀ e ∈ L, e.2.span.record.id = id → e.1 = t) :
    (L.filter (·.2.span.record.id = id)).length ≤ 1 := by
  have hown : L.filter (·.2.span.record.id = id) =
      (L.filter (·.1 = t)).filter (·.2.span.record.id = id) := by
    rw [List.filter_filter]
    refine List.filter_congr fun e he => ?_
    by_cases hid : e.2.span.record.id = id
    · simp [hid, hothers e he hid]
    · simp [hid]
  have hcount : (L.filter (·.2.span.record.id = id)).length =
      (FinishedSpan.ids ((journal L t).map (·.span))).count id := by
    rw [hown, ← List.countP_eq_length_filter, FinishedSpan.ids, journal, List.map_map, List.map_map,
      List.count, List.countP_map]
    refine List.countP_congr fun e _ => ?_
    simp
  rw [hcount]
  exact List.nodup_iff_count_le_one.mp hids id

end Ledger

theorem eq_singleton_of_mem {α : Type} {l : List α} {x : α} (hx : x ∈ l) (hl : l.length ≤ 1) :
    l = [x] := by
  obtain ⟨y, rfl⟩ := List.length_eq_one_iff.mp (le_antisymm hl (List.length_pos_of_mem hx))
  rw [List.mem_singleton.mp hx]

/-- What comes after other actions. -/
def History.run (h : History) (actions : List Action) : History := actions.foldl History.step h

namespace Agent

variable {a a' : Agent} {s : SpanHandle} {t u : TransactionRef} {tx ux : Transaction} {i : Nat}

/-- The handle is that of a recorded span that has not ended. -/
def IsLive (a : Agent) (s : SpanHandle) : Prop := ∃ span ∈ a.span? s, span.ended = false

/-- The calls through which another service is told about a span: of the span itself, or of what is
current while it is. -/
inductive TellsOf (a : Agent) (s : SpanHandle) : Agent → Prop
  | direct : TellsOf a s (a.outboundOfSpan s).1
  | outbound (hcurrent : a.currentSpan = some s) : TellsOf a s a.outbound.1
  | header (hcurrent : a.currentSpan = some s) : TellsOf a s a.traceParentHeader.1
  | inject (hcurrent : a.currentSpan = some s) (headers : Headers)
      (hwritten : (a.injectHeaders headers).2.isSome = true) :
      TellsOf a s (a.injectHeaders headers).1

/-- All of them do to the span what the first does. -/
theorem TellsOf.eq (h : a.TellsOf s a') : a' = a.perform (.outboundOfSpan s) := by
  have houtbound : a.currentSpan = some s → a.outbound = a.outboundOfSpan s := by
    intro hcurrent
    simp only [Agent.outbound, hcurrent]
  cases h with
  | direct => rfl
  | outbound hcurrent => rw [houtbound hcurrent]; rfl
  | header hcurrent =>
    simp only [traceParentHeader, houtbound hcurrent]
    rfl
  | inject hcurrent headers hwritten =>
    unfold injectHeaders at hwritten ⊢
    split at hwritten
    · cases hwritten
    · simp only [houtbound hcurrent]
      rfl

/-! ### The mark, in runs -/

theorem keepsKnown_foldl {h : History} (htx : h.agent.transaction? t = some tx)
    (actions : List Action) :
    ∃ tx', (h.run actions).agent.transaction? t = some tx' ∧ tx.KeepsKnown tx' := by
  induction actions generalizing h tx with
  | nil => exact ⟨tx, htx, .refl tx⟩
  | cons act rest ih =>
    obtain ⟨tx', htx', hstep⟩ := (h.agent.perform_moves act).old htx
    obtain ⟨tx'', htx'', hrest⟩ := ih (h := h.step act) htx'
    exact ⟨tx'', htx'', hstep.keepsKnown.trans hrest⟩

theorem exists_of_isLive (h : a.IsLive s) : ∃ t i tx span d, s = .recording t i ∧
    a.transaction? t = some tx ∧ tx.liveSpan? i = some (span, d) := by
  obtain ⟨span, hspan, hended⟩ := h
  cases s with
  | detached => cases hspan
  | standIn t i => cases hspan
  | recording t i =>
    obtain ⟨tx, htx, hs⟩ := Option.bind_eq_some_iff.mp hspan
    obtain ⟨d, hd⟩ := Option.isSome_iff_exists.mp (by simpa [Span.ended] using hended)
    exact ⟨t, i, tx, span, d, rfl, htx, Transaction.liveSpan?_eq_some_iff.mpr ⟨hs, hd⟩⟩

/-! ### What is found under an identifier -/

/-- A finished span has the identifier of a span of the transaction that holds or released it. -/
theorem exists_outline {h : History} (hk : h.Keeps Transaction.Sourced)
    (htx : h.agent.transaction? t = some tx) {f : FinishedSpan}
    (hf : f ∈ (h.ledger.journal t).map (·.span) ++ tx.held) :
    ∃ o ∈ tx.outlines, o.id = f.record.id := by
  have hmem := (hk.known htx).ids.subset (List.mem_map_of_mem hf)
  obtain ⟨o, ho, hid⟩ := List.mem_map.mp hmem
  exact ⟨o, (List.filter_sublist.map _).subset ho, hid⟩

/-- Where identifiers differ, all that is released under that of one finished span is its own
release, and no buffer holds anything under it. -/
theorem released_once {h : History} (hk : h.Keeps Transaction.Sourced)
    (hids : h.agent.spanIds.Nodup) {r : Release} (hr : (t, r) ∈ h.ledger) :
    h.ledger.filter (·.2.span.record.id = r.span.record.id) = [(t, r)] ∧
      ∀ u ux, h.agent.transaction? u = some ux → ∀ g ∈ ux.held,
        g.record.id ≠ r.span.record.id := by
  have hjournal : ∀ {u : TransactionRef} {r : Release}, (u, r) ∈ h.ledger →
      r ∈ h.ledger.journal u := by
    intro u r hr
    exact List.mem_map.mpr ⟨(u, r), List.mem_filter.mpr ⟨hr, by simp⟩, rfl⟩
  have hfound : ∀ {u : TransactionRef} {r : Release}, (u, r) ∈ h.ledger →
      ∃ ux, h.agent.transaction? u = some ux ∧ ∃ o ∈ ux.outlines, o.id = r.span.record.id := by
    intro u r hr
    cases hux : h.agent.transaction? u with
    | none =>
      have hmem := hjournal hr
      rw [hk.unknown hux] at hmem
      cases hmem
    | some ux =>
      exact ⟨ux, rfl, exists_outline hk hux
        (List.mem_append_left _ (List.mem_map_of_mem (hjournal hr)))⟩
  obtain ⟨tx, htx, o, ho, hid⟩ := hfound hr
  have hnodup := (hk.known htx).nodup (nodup_outlines hids htx)
  rw [FinishedSpan.ids, List.map_append, List.nodup_append] at hnodup
  refine ⟨eq_singleton_of_mem (List.mem_filter.mpr ⟨hr, by simp⟩) ?_, fun u ux hux g hg hgid => ?_⟩
  · refine Ledger.length_filter_id_le hnodup.1 fun e he heid => ?_
    obtain ⟨ux, hux, p, hp, hpid⟩ := hfound he
    exact eq_of_id_eq hids hux htx hp ho (hpid.trans (heid.trans hid.symm))
  · obtain ⟨p, hp, hpid⟩ := exists_outline hk hux (List.mem_append_right _ hg)
    obtain rfl := eq_of_id_eq hids hux htx hp ho (hpid.trans (hgid.trans hid.symm))
    obtain rfl := Option.some.inj (hux.symm.trans htx)
    refine hnodup.2.2 r.span.record.id ?_ g.record.id (List.mem_map_of_mem hg) hgid.symm
    exact List.mem_map_of_mem (List.mem_map_of_mem (hjournal hr))

/-- A span that another service was told about is marked until it ends. -/
theorem propagated_of_told {h : History} (htold : h.agent.IsLive (.recording t i))
    (actions : List Action) {span : Span} {d : SpanDetails}
    (htx : ((h.step (.outboundOfSpan (.recording t i))).run actions).agent.transaction? t = some tx)
    (hspan : tx.liveSpan? i = some (span, d)) : d.propagated = true := by
  obtain ⟨t₀, i₀, tx₀, span₀, d₀, hs, htx₀, hspan₀⟩ := exists_of_isLive htold
  obtain ⟨rfl, rfl⟩ := SpanHandle.recording.inj hs
  obtain ⟨span₁, hspan₁, hknown, -⟩ :=
    Transaction.known_outboundOf (Transaction.liveSpan?_eq_some_iff.mp hspan₀).1
  have htx₁ : (h.step (.outboundOfSpan (.recording t i))).agent.transaction? t =
      some (tx₀.outboundOf i).1 := by
    simp only [History.step, perform, outboundOfSpan, htx₀]
    exact transaction?_modifyTransaction htx₀ _
  obtain ⟨tx₂, htx₂, hkept⟩ := keepsKnown_foldl htx₁ actions
  obtain rfl := Option.some.inj (htx.symm.trans htx₂)
  obtain ⟨span₂, hspan₂, hknown₂, -⟩ := hkept i span₁ hspan₁ hknown
  obtain ⟨hs, hd⟩ := Transaction.liveSpan?_eq_some_iff.mp hspan
  obtain rfl := Option.some.inj (hs.symm.trans hspan₂)
  exact hknown₂ d hd

/-- The call that ends a marked span releases and reports it as it ended, and leaves all other
finished spans as they were. -/
theorem endSpan_of_propagated {span : Span} {d : SpanDetails} (htx : a.transaction? t = some tx)
    (hnested : tx.Nested) (hspan : tx.liveSpan? i = some (span, d)) (hd : d.propagated = true)
    (default : Outcome) (hov : (a.endSpan (.recording t i) default).overflowed = false) :
    let f := tx.finished span d default a.now (a.framesFor tx i)
    let ended := a.endSpan (.recording t i) default
    let releases := a.releases (.endSpan (.recording t i) default)
    ∃ tx', ended.transaction? t = some tx' ∧
      ended.queue = a.queue.putAll ((Ledger.records releases).map .span) ∧
      (t, ⟨f, true⟩) ∈ releases ∧ (releases.map (·.2.span) ++ tx'.held).Perm (f :: tx.held) := by
  intro f ended releases
  obtain ⟨frameRequests, hend⟩ := endSpan_of_live htx hspan default
  have haside : Aside a { a with frameRequests } := ⟨rfl, rfl⟩
  have htx' := (haside.exchange htx (tx.endSpan i default a.now (a.framesFor tx i)).1
    ((tx.endSpan i default a.now (a.framesFor tx i)).2.map .span)).1
  rw [← hend] at htx'
  have hov' := overflowed_eq_false_iff.mp hov htx'
  obtain ⟨-, stats, heq⟩ := Transaction.endSpan_eq hspan hov'
  obtain ⟨hmem, hrelease, hperm⟩ := Transaction.endSpan_propagated hnested hspan hd hov'
  have hreleases : releases =
      .ofJournal t ((tx.leaving i default a.now (a.framesFor tx i)).map tx.release) := by
    simp only [releases, Agent.releases, htx]
  have hrecords :
      Ledger.records releases = (tx.endSpan i default a.now (a.framesFor tx i)).2 := by
    rw [hreleases, Ledger.records_ofJournal, heq]
  have hspans : releases.map (·.2.span) = tx.leaving i default a.now (a.framesFor tx i) := by
    rw [hreleases, Ledger.ofJournal, List.map_map, List.map_map]
    exact List.map_id _
  refine ⟨_, htx', ?_, ?_, ?_⟩
  · rw [show ended = _ from hend, queue_enqueueAll, hrecords]
    rfl
  · rw [hreleases, ← hrelease]
    exact List.mem_map_of_mem (List.mem_map_of_mem hmem)
  · rw [hspans]
    exact hperm

/-- **A span whose identifier was propagated is reported under it.** Let any operations happen to an
agent that has not begun a transaction yet, let another service be told about a span before it ends,
let no two spans have got the same identifier, and let no duration overflow. The call that ends the
span

* hands exactly one record with its identifier to the queue, which is no composite;
* releases the span as it ended, and leaves all other finished spans as they were, so that the span
  is not merged into a sibling, and no sibling into the span.

At no time after that does any buffer hold the span, and in the whole run nothing else is released
under its identifier, be it reported or left out. -/
theorem run_reports_propagated (a told : Agent) (before middle after : List Action)
    (s : SpanHandle) (default : Outcome) (hnone : a.transactions = #[]) :
    let asked := a.run before
    let ending := History.run ⟨told, asked.ledger⟩ middle
    let ended := ending.step (.endSpan s default)
    let last := ended.run after
    let releases := ending.agent.releases (.endSpan s default)
    asked.agent.IsLive s → asked.agent.TellsOf s told → ending.agent.IsLive s →
    last.agent.overflowed = false → last.agent.spanIds.Nodup →
    ∃ t i tx tx' span d f, s = .recording t i ∧
      ending.agent.transaction? t = some tx ∧ ended.agent.transaction? t = some tx' ∧
      tx.liveSpan? i = some (span, d) ∧
      f = tx.finished span d default ending.agent.now (ending.agent.framesFor tx i) ∧
      f.record.id = span.id ∧ f.toRecord.composite = none ∧
      ended.agent.queue = ending.agent.queue.putAll ((Ledger.records releases).map .span) ∧
      (Ledger.records releases).filter (·.id = span.id) = [f.toRecord] ∧
      (releases.map (·.2.span) ++ tx'.held).Perm (f :: tx.held) ∧
      last.ledger.filter (·.2.span.record.id = span.id) = [(t, ⟨f, true⟩)] ∧
      ∀ u ux, last.agent.transaction? u = some ux → ∀ g ∈ ux.held, g.record.id ≠ span.id := by
  intro asked ending ended last releases hasked htold hlive hov hids
  have hmarked : (⟨told, asked.ledger⟩ : History) = asked.step (.outboundOfSpan s) := by
    rw [htold.eq, History.step, show asked.agent.releases (.outboundOfSpan s) = [] from rfl,
      List.append_nil]
  have hending : ending = a.run (before ++ .outboundOfSpan s :: middle) := by
    show History.run _ middle = _
    rw [hmarked, Agent.run, List.foldl_append]
    rfl
  have hlast : last = a.run ((before ++ .outboundOfSpan s :: middle) ++
      .endSpan s default :: after) := by
    rw [Agent.run, List.foldl_append, ← Agent.run, ← hending]
    rfl
  have hended : ended.agent.overflowed = false := History.overflowed_of_foldl hov
  have hkeeps : ending.Keeps Transaction.Sourced := by
    rw [hending]
    refine run_keeps Transaction.isInvariant_sourced hnone ?_
    rw [← hending]
    exact History.overflowed_of_step hended
  have hkeeps' : last.Keeps Transaction.Sourced := by
    rw [hlast] at hov ⊢
    exact run_keeps Transaction.isInvariant_sourced hnone hov
  obtain ⟨t, i, tx, span, d, rfl, htx, hspan⟩ := exists_of_isLive hlive
  have hd : d.propagated = true := propagated_of_told hasked middle (hmarked ▸ htx) hspan
  obtain ⟨tx', htx', hqueue, hreleased, hperm⟩ :=
    endSpan_of_propagated htx (hkeeps.known htx).nested hspan hd default hended
  obtain ⟨later, hledger, -⟩ := History.queued_foldl (h := ended) hov
  have hpart : releases.Sublist last.ledger := by
    rw [show last.ledger = ending.ledger ++ releases ++ later from hledger]
    exact (List.sublist_append_right _ _).trans (List.sublist_append_left _ _)
  obtain ⟨honce, hheld⟩ := released_once hkeeps' hids (hpart.subset hreleased)
  have hcall : releases.filter (·.2.span.record.id = span.id) = [(t, _)] :=
    eq_singleton_of_mem (List.mem_filter.mpr ⟨hreleased, decide_eq_true rfl⟩)
      ((hpart.filter _).length_le.trans (congrArg List.length honce).le)
  refine ⟨t, i, tx, tx', span, d, _, rfl, htx, htx', hspan, rfl, rfl, rfl, hqueue, ?_, hperm,
    honce, hheld⟩
  rw [Ledger.records_filter_id, hcall]
  rfl

/-- Of two calls that are alike the second is current when a header is asked for. It is too short to
be reported otherwise, and the first one waits for it. -/
theorem run_reports_propagated_shortCall :
    let s : SpanHandle := .recording 0 2
    let call : SpanBuilder := { kind := "db", leaf := true, duration := some 1 }
    let before : List Action :=
      [.beginTransaction { kind := "request", caller := some (.create (.ofNat 1) (.ofNat 9) true) },
        .beginSpan 0 { name := "outer" } none, .beginSpan 0 call (some (.recording 0 0)),
        .beginSpan 0 call (some (.recording 0 0)), .endSpan (.recording 0 1) .success,
        .setSpan (some s)]
    let asked := inMemory.run before
    let told := asked.agent.outbound.1
    let ending := History.run ⟨told, asked.ledger⟩ [.advance 1]
    let releases := ending.agent.releases (.endSpan s .success)
    let last := (ending.step (.endSpan s .success)).run []
    asked.agent.currentSpan = some s ∧ ending.agent.IsLive s ∧
      last.agent.overflowed = false ∧ last.agent.spanIds.Nodup ∧
      releases.map (fun e => (e.2.span.record.id, e.2.reported)) =
        [(.ofNat 3, false), (.ofNat 4, true)] ∧
      ∃ r, (Ledger.records releases).filter (·.id = .ofNat 4) = [r] ∧ r.composite = none := by
  intro s call before asked told ending releases last
  have hcurrent : asked.agent.currentSpan = some s := by decide +kernel
  have hasked : asked.agent.IsLive s := by
    rw [IsLive]
    decide +kernel
  have hlive : ending.agent.IsLive s := by
    rw [IsLive]
    decide +kernel
  have hov : last.agent.overflowed = false := by decide +kernel
  have hids : last.agent.spanIds.Nodup := by decide +kernel
  have hid : ending.agent.spanId? s = some (.ofNat 4) := by decide +kernel
  obtain ⟨t, i, tx, tx', span, d, f, hs, htx, -, hspan, -, -, hplain, -, hrecord, -⟩ :=
    run_reports_propagated inMemory told before [.advance 1] [] s .success rfl hasked
      (.outbound hcurrent) hlive hov hids
  have hspanId : span.id = .ofNat 4 := by
    have hfound := (Transaction.liveSpan?_eq_some_iff.mp hspan).1
    rw [hs, spanId?, span?, htx, Option.bind_some, hfound] at hid
    exact Option.some.inj hid
  rw [hspanId] at hrecord
  exact ⟨hcurrent, hlive, hov, hids, by decide +kernel, f.toRecord, hrecord, hplain⟩

end Agent

end Telemetry
