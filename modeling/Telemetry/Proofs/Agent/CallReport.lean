import Telemetry.Proofs.Agent.CallTree
import Telemetry.Proofs.Agent.Run

/-!
# The tree that is reported is the tree of the calls

A transaction begins, calls run in it, and it ends. Where nothing is merged or left out and the
budget is unlimited, the report is the forest of the calls, written in the order in which they
return: first the calls inside, then the call itself, then what comes after it. Calls beneath a leaf
are not in it.

## Main definitions

* `Calls.postorder`: the report that is expected.

## Main results

* `Calls.trace_unlimited`: without a budget the trace is the expected report.
* `Agent.runCalls_between`: what a transaction with calls in it hands to the queue.
* `Agent.runCalls_reports_tree`: the report is the tree of the calls.
-/

namespace Telemetry

/-! ### The expected report -/

/-- The calls that are not beneath a leaf, as they return, each with its identifier and that of the
call that encloses it. Identifiers are taken in the order in which calls begin. -/
def Calls.postorder (parentId : SpanId) : Calls → IdSource → List TracedCall × IdSource
  | .done, ids => ([], ids)
  | .wait _ rest, ids => rest.postorder parentId ids
  | .call b inner rest, ids =>
    let (id, ids) := ids.spanId
    let (inside, ids) := if b.leaf then ([], ids) else inner.postorder id ids
    let (after, ids) := rest.postorder parentId ids
    (inside ++ ⟨b, id, parentId⟩ :: after, ids)

namespace Calls

variable {limit : Nat} {s : Tally}

/-- Beneath a leaf nothing is recorded, and nothing is counted. -/
theorem trace_beneath_leaf (calls : Calls) :
    calls.trace limit (.hidden .leafParent) s = (s, []) := by
  induction calls with
  | done => rfl
  | wait d rest ih => exact ih
  | call b inner rest ihInner ihRest =>
    have hrefuse : s.refuse .leafParent = s := rfl
    simp only [trace, Cover.verdict, hrefuse, ihInner, ihRest, List.append_nil]

/-- Without a limit every call that is not beneath a leaf is recorded. -/
theorem trace_unlimited (calls : Calls) (parentId : SpanId) :
    (calls.trace 0 (.within parentId) s).2 = (calls.postorder parentId s.ids).1 ∧
      (calls.trace 0 (.within parentId) s).1.ids = (calls.postorder parentId s.ids).2 ∧
      (calls.trace 0 (.within parentId) s).1.dropped = s.dropped := by
  induction calls generalizing s parentId with
  | done => exact ⟨rfl, rfl, rfl⟩
  | wait d rest ih => exact ih parentId
  | call b inner rest ihInner ihRest =>
    have haccept : (Cover.within parentId).verdict 0 s.created = .ok parentId := by
      simp [Cover.verdict]
    simp only [trace, haccept, postorder, Cover.inside]
    cases b.leaf with
    | true =>
      obtain ⟨hcalls, hids, hdropped⟩ := ihRest (s := s.accept.1) parentId
      simp only [if_true, trace_beneath_leaf, List.nil_append]
      exact ⟨congrArg _ hcalls, hids, hdropped⟩
    | false =>
      obtain ⟨hcalls, hids, hdropped⟩ := ihInner (s := s.accept.1) s.accept.2
      obtain ⟨hcalls', hids', hdropped'⟩ := ihRest
        (s := (inner.trace 0 (.within s.accept.2) s.accept.1).1) parentId
      simp only [Bool.false_eq_true, if_false, hcalls, hcalls', hids', hdropped', hids, hdropped]
      exact ⟨rfl, rfl, rfl⟩

end Calls

/-! ### From the beginning to the end -/

theorem Transaction.IsNew.direct {tx : Transaction} (h : tx.IsNew) (hsampled : tx.sampled = true)
    (hcompression : tx.limits.compression.enabled = false) (hexit : tx.limits.exitSpanMin = 0) :
    tx.Direct where
  sampled := hsampled
  live := h.ended
  compression := hcompression
  exitSpanMin := hexit
  slots
    | none => h.slot
    | some i => by simp [bufferOf, h.spans]

namespace Agent

variable {a : Agent} {t : TransactionRef} {tx : Transaction}

theorem queue_beginTransaction (a : Agent) (b : TransactionBuilder) :
    (a.beginTransaction b).1.queue = a.queue := by
  obtain ⟨_, -, -, -, -, hqueue⟩ := a.beginTransaction_eq b
  exact hqueue

/-- The transaction that is current ends, and is reported. -/
theorem endTransaction_reports (hcontext : a.context = ⟨some t, none⟩)
    (htx : a.transaction? t = some tx) (hdirect : tx.Direct) (hov : tx.overflowed = false)
    (result name : Option String) :
    let final := (a.endTransaction result name).1
    final.context = {} ∧ ∃ r : TransactionRecord,
      final.queue = a.queue.putAll [.transaction r] ∧ r.id = tx.id ∧
      r.spanCount = tx.spanCount := by
  have hcurrent : a.currentTransaction = some t := by
    simp [currentTransaction, transactionOf, hcontext, hasEnded, htx, hdirect.live]
  obtain ⟨r, hevents, hid, hcount⟩ := hdirect.finish result name a.now hov
  have heq : (a.endTransaction result name).1 =
      ((a.setTransaction none).modifyTransaction t fun _ =>
        (tx.finish result name a.now).1).enqueueAll [.transaction r] := by
    have htx' : (a.setTransaction none).transaction? t = some tx := htx
    have hnow : (a.setTransaction none).now = a.now := rfl
    simp only [endTransaction, hcurrent, finishTransaction, htx', hdirect.live, hnow, hevents,
      Bool.false_eq_true, if_false]
  dsimp only
  rw [heq]
  refine ⟨?_, r, queue_enqueueAll _ _, hid, hcount⟩
  rw [context, contexts_enqueueAll]
  rfl

/-- **What a transaction with calls in it hands to the queue**, unless some duration overflows. -/
theorem runCalls_between {b : TransactionBuilder} {calls : Calls} (result name : Option String)
    (hactive : b.activate = true) (hcompression : a.config.current.compression = false)
    (hexit : a.config.current.exitSpanMin = 0)
    (hsampled : ∀ tx ∈ (a.beginTransaction b).1.transaction? (a.beginTransaction b).2,
      tx.sampled = true)
    (hroom : a.contexts.saved.size + calls.depth < ContextStack.limit) :
    let begun := (a.beginTransaction b).1
    let t := (a.beginTransaction b).2
    let final := ((begun.runCalls calls).endTransaction result name).1
    ∃ tx tx', begun.transaction? t = some tx ∧ (begun.runCalls calls).transaction? t = some tx' ∧
      let traced := calls.trace a.config.current.maxSpans (.within tx.id) ⟨begun.ids, 0, 0⟩
      (traced.1.dropped = 0 → tx'.overflowed = false) ∧
      (tx'.overflowed = false → final.context = {} ∧
        ∃ (records : List SpanRecord) (r : TransactionRecord),
          final.queue = a.queue.putAll (records.map .span ++ [.transaction r]) ∧
          List.Forall₂ tx.Shows traced.2 records ∧ r.id = tx.id ∧
          r.spanCount = ⟨records.length, traced.1.dropped⟩) := by
  intro begun t final
  obtain ⟨tx, htx, hnew, hlimits⟩ := a.exists_begun b
  have hcontexts : begun.contexts = ⟨⟨some t, none⟩, a.contexts.saved⟩ :=
    contexts_beginTransaction hactive
  have hdirect : tx.Direct := hnew.direct (hsampled tx htx) (by rw [hlimits]; exact hcompression)
    (by rw [hlimits]; exact hexit)
  have hroom' : begun.contexts.saved.size + calls.depth < ContextStack.limit := by
    rwa [hcontexts]
  obtain ⟨tx', htraced⟩ := runCalls_traced calls (by rw [context, hcontexts]) htx hdirect
    .transaction hroom'
  have hmax : tx.limits.maxSpans = a.config.current.maxSpans := by
    rw [hlimits]
    rfl
  rw [hmax, hnew.created, hnew.dropped] at htraced
  obtain ⟨records, hqueue, htold⟩ := htraced.told
  have hdropped : tx'.dropped = _ := congrArg Tally.dropped htraced.tally
  refine ⟨tx, tx', htx, htraced.known, fun hnone => ?_, fun hov => ?_⟩
  · rw [htold.harmless (by rw [hdropped, hnone, hnew.dropped]), hnew.overflowed]
  · have hcontext : (begun.runCalls calls).context = ⟨some t, none⟩ := by
      rw [context, contexts_runCalls hroom', hcontexts]
    obtain ⟨hcontext', r, hfinal, hid, hcount⟩ :=
      endTransaction_reports hcontext htraced.known htraced.direct hov result name
    obtain ⟨-, hstarted, hshown⟩ := htold.told hov
    refine ⟨hcontext', records, r, ?_, hshown, hid.trans htold.id, ?_⟩
    · rw [hfinal, hqueue, Queue.putAll_append, queue_beginTransaction]
    · rw [hcount, Transaction.spanCount, hstarted, hdropped, hnew.started, Nat.zero_add]

/-- **The tree that is reported is the tree of the calls.** Every call that is not beneath a leaf is
reported once, when it returns, under the identifier of the call that encloses it; then the
transaction is reported, and nothing is current any more. -/
theorem runCalls_reports_tree {b : TransactionBuilder} {calls : Calls}
    (result name : Option String) (hactive : b.activate = true)
    (hbudget : a.config.current.maxSpans = 0) (hcompression : a.config.current.compression = false)
    (hexit : a.config.current.exitSpanMin = 0)
    (hsampled : ∀ tx ∈ (a.beginTransaction b).1.transaction? (a.beginTransaction b).2,
      tx.sampled = true)
    (hroom : a.contexts.saved.size + calls.depth < ContextStack.limit) :
    let begun := (a.beginTransaction b).1
    let final := ((begun.runCalls calls).endTransaction result name).1
    ∃ tx, begun.transaction? (a.beginTransaction b).2 = some tx ∧
      ∃ (records : List SpanRecord) (r : TransactionRecord),
        final.queue = a.queue.putAll (records.map .span ++ [.transaction r]) ∧
        List.Forall₂ tx.Shows (calls.postorder tx.id begun.ids).1 records ∧
        r.id = tx.id ∧ r.spanCount = ⟨records.length, 0⟩ ∧ final.context = {} := by
  intro begun final
  obtain ⟨tx, tx', htx, -, hharmless, hreport⟩ :=
    runCalls_between result name hactive hcompression hexit hsampled hroom
  rw [hbudget] at hharmless hreport
  obtain ⟨hcalls, -, hdropped⟩ := calls.trace_unlimited tx.id (s := ⟨begun.ids, 0, 0⟩)
  obtain ⟨hcontext, records, r, hqueue, hshown, hid, hcount⟩ := hreport (hharmless hdropped)
  rw [hcalls] at hshown
  exact ⟨tx, htx, records, r, hqueue, hshown, hid, hcount.trans (by rw [hdropped]), hcontext⟩

/-- A query that connects first, and a second step, run inside one call, and another call comes
after it. The connection is beneath a leaf. -/
theorem runCalls_reports_tree_of_five :
    let a : Agent :=
      { config := ⟨{ maxSpans := 0, compression := false, exitSpanMin := 0 }, 0⟩
        queue := .memory {} }
    let b : TransactionBuilder :=
      { kind := "request", caller := some (.create (.ofNat 1) (.ofNat 9) true) }
    let query : Calls := .call { name := "query", leaf := true }
      (.call { name := "connect" } .done .done) (.call { name := "render" } .done .done)
    let calls : Calls :=
      .call { name := "page" } query (.wait 5 (.call { name := "log" } .done .done))
    (calls.postorder (.ofNat 1) (a.beginTransaction b).1.ids).1.map
        (fun c => (c.builder.name, c.id, c.parentId)) =
        [("query", .ofNat 3, .ofNat 2), ("render", .ofNat 4, .ofNat 2),
          ("page", .ofNat 2, .ofNat 1), ("log", .ofNat 5, .ofNat 1)] ∧
      ∃ (tx : Transaction) (records : List SpanRecord) (r : TransactionRecord),
        (((a.beginTransaction b).1.runCalls calls).endTransaction none none).1.queue =
          a.queue.putAll (records.map .span ++ [.transaction r]) ∧
        List.Forall₂ tx.Shows (calls.postorder tx.id (a.beginTransaction b).1.ids).1 records ∧
        r.id = tx.id ∧ r.spanCount = ⟨records.length, 0⟩ := by
  intro a b query calls
  have hsampled : ∀ tx ∈ (a.beginTransaction b).1.transaction? (a.beginTransaction b).2,
      tx.sampled = true := by
    decide +kernel
  have hroom : a.contexts.saved.size + calls.depth < ContextStack.limit := by decide
  obtain ⟨tx, -, records, r, hqueue, hshown, hid, hcount, -⟩ :=
    @runCalls_reports_tree a b calls none none rfl rfl rfl rfl hsampled hroom
  exact ⟨by decide +kernel, tx, records, r, hqueue, hshown, hid, hcount⟩

end Agent

end Telemetry
