import Telemetry.Proofs.Agent.CallReport

/-!
# What a budget does to the report

A budget admits the first calls and refuses the others. Calls beneath a leaf do not count, for they
would not have been recorded anyway. But a call that is refused leaves a stand-in behind which does
not know of leaves, and everything beneath it is refused for the budget as well. So once a leaf is
refused, the calls beneath it are counted as dropped.

How many calls are counted in the end thus depends on the budget. It does so by exactly the calls
beneath those leaves that were refused.

## Main definitions

* `Calls.hidden`: how many calls are beneath each call that is a leaf.
* `charge`: one call more against a budget, with what it hides; `admitted`: how many get in.

## Main results

* `Calls.trace_charges`: the trace counts as charging one call after the other does.
* `Agent.runCalls_counts`: what is counted, for all forests and budgets.
* `Agent.runCalls_total_depends_on_budget`: two budgets with different totals.
-/

namespace Telemetry

/-! ### Charging a budget -/

namespace Calls

/-- For each call that is not beneath a leaf, in the order in which they begin, how many calls it
hides: all that run inside it if it is a leaf, and none otherwise. -/
def hidden : Calls → List Nat
  | .done => []
  | .wait _ rest => rest.hidden
  | .call b inner rest =>
    (if b.leaf then [inner.size] else 0 :: inner.hidden) ++ rest.hidden

/-- A call is hidden or it is not. -/
theorem length_hidden_add_sum (calls : Calls) :
    calls.hidden.length + calls.hidden.sum = calls.size := by
  induction calls with
  | done => rfl
  | wait d rest ih => exact ih
  | call b inner rest ihInner ihRest =>
    simp only [hidden, size]
    cases b.leaf <;> simp <;> omega

end Calls

/-- The admitted and the dropped calls after one more call that hides so many. -/
def charge (limit : Nat) (counted : Nat × Nat) (hides : Nat) : Nat × Nat :=
  if limit = 0 ∨ counted.1 < limit then (counted.1 + 1, counted.2)
  else (counted.1, counted.2 + 1 + hides)

theorem charge_of_room {limit created : Nat} (h : limit = 0 ∨ created < limit)
    (dropped hides : Nat) : charge limit (created, dropped) hides = (created + 1, dropped) :=
  if_pos h

theorem charge_of_exhausted {limit created : Nat} (h : ¬ (limit = 0 ∨ created < limit))
    (dropped hides : Nat) :
    charge limit (created, dropped) hides = (created, dropped + 1 + hides) :=
  if_neg h

/-- How many of so many calls a budget admits that has admitted some before. -/
def admitted (limit created calls : Nat) : Nat :=
  if limit = 0 then calls else min calls (limit - created)

theorem admitted_le (limit created calls : Nat) : admitted limit created calls ≤ calls := by
  unfold admitted
  split <;> omega

theorem admitted_succ {limit created : Nat} (h : limit = 0 ∨ created < limit) (calls : Nat) :
    admitted limit created (calls + 1) = admitted limit (created + 1) calls + 1 := by
  unfold admitted
  split <;> omega

theorem admitted_of_exhausted {limit created : Nat} (h : ¬ (limit = 0 ∨ created < limit))
    (calls : Nat) : admitted limit created calls = 0 := by
  unfold admitted
  split <;> omega

/-- Once the budget is used up, every call is dropped with what it hides. -/
theorem foldl_charge_of_exhausted {limit created dropped : Nat}
    (h : ¬ (limit = 0 ∨ created < limit)) (hides : List Nat) :
    hides.foldl (charge limit) (created, dropped) =
      (created, dropped + hides.length + hides.sum) := by
  induction hides generalizing dropped with
  | nil => rfl
  | cons n rest ih =>
    rw [List.foldl_cons, charge_of_exhausted h, ih, List.length_cons, List.sum_cons]
    congr 1
    omega

/-- The first calls are admitted, as many as the budget has room for. -/
theorem foldl_charge (limit created dropped : Nat) (hides : List Nat) :
    hides.foldl (charge limit) (created, dropped) =
      (created + admitted limit created hides.length,
        dropped + (hides.length - admitted limit created hides.length) +
          (hides.drop (admitted limit created hides.length)).sum) := by
  induction hides generalizing created dropped with
  | nil => simp [admitted]
  | cons n rest ih =>
    by_cases hroom : limit = 0 ∨ created < limit
    · rw [List.foldl_cons, charge_of_room hroom, ih, List.length_cons, admitted_succ hroom,
        List.drop_succ_cons]
      congr 1 <;> omega
    · rw [foldl_charge_of_exhausted hroom, admitted_of_exhausted hroom]
      simp

namespace Calls

variable {limit : Nat} {s : Tally}

/-- Beneath what was refused for the budget, everything is. -/
theorem trace_beneath_refused (calls : Calls) :
    calls.trace limit (.hidden .maxSpansExceeded) s =
      ({ s with dropped := s.dropped + calls.size }, []) := by
  induction calls generalizing s with
  | done => rfl
  | wait d rest ih => exact ih
  | call b inner rest ihInner ihRest =>
    simp only [trace, Cover.verdict, ihInner, ihRest, Tally.refuse, if_true, List.append_nil, size]
    congr 2
    omega

/-- As many calls are recorded as are admitted. -/
theorem length_trace (calls : Calls) (limit : Nat) (c : Cover) (s : Tally) :
    (calls.trace limit c s).1.created = s.created + (calls.trace limit c s).2.length := by
  induction calls generalizing c s with
  | done => rfl
  | wait d rest ih => exact ih c s
  | call b inner rest ihInner ihRest =>
    rw [trace]
    cases c.verdict limit s.created with
    | ok parentId =>
      simp only [ihRest, ihInner, List.length_append, List.length_cons]
      simp only [Tally.accept]
      omega
    | error reason =>
      simp only [ihRest, ihInner, List.length_append]
      simp only [Tally.refuse]
      omega

/-- **The trace counts as charging one call after the other does.** -/
theorem trace_charges (calls : Calls) (limit : Nat) (parentId : SpanId) (s : Tally) :
    ((calls.trace limit (.within parentId) s).1.created,
      (calls.trace limit (.within parentId) s).1.dropped) =
        calls.hidden.foldl (charge limit) (s.created, s.dropped) := by
  induction calls generalizing parentId s with
  | done => rfl
  | wait d rest ih => exact ih parentId s
  | call b inner rest ihInner ihRest =>
    rw [trace, hidden, List.foldl_append]
    by_cases hroom : limit = 0 ∨ s.created < limit
    · have haccept : (Cover.within parentId).verdict limit s.created = .ok parentId :=
        if_pos hroom
      simp only [haccept, ihRest, Cover.inside]
      congr 1
      cases b.leaf with
      | true =>
        simp only [if_true, trace_beneath_leaf, List.foldl_cons, List.foldl_nil]
        rw [charge_of_room hroom]
        rfl
      | false =>
        simp only [Bool.false_eq_true, if_false, List.foldl_cons, ihInner]
        rw [charge_of_room hroom]
        rfl
    · have hrefuse : (Cover.within parentId).verdict limit s.created =
          .error .maxSpansExceeded := if_neg hroom
      have hsize := inner.length_hidden_add_sum
      simp only [hrefuse, ihRest, trace_beneath_refused, Tally.refuse, if_true]
      congr 1
      rw [foldl_charge_of_exhausted hroom]
      congr 1
      cases b.leaf with
      | true => rfl
      | false =>
        simp only [Bool.false_eq_true, if_false, List.length_cons, List.sum_cons]
        omega

end Calls

/-! ### What is counted in the end -/

/-- What the transactions kept in memory have counted, started and dropped together. -/
def Queue.totals : Queue → List Nat
  | .memory q => q.transactions.map fun r => r.spanCount.started + r.spanCount.dropped
  | _ => []

namespace Agent

variable {a : Agent}

/-- **What is counted**, for all forests of calls and all budgets. As many calls are started as the
budget admits. In total those are counted that are not beneath a leaf, and, in addition, those that
are beneath a leaf which was refused. So two budgets agree in the total if no leaf that one of them
refuses encloses a call. -/
theorem runCalls_counts {b : TransactionBuilder} {calls : Calls} (result name : Option String)
    (hactive : b.activate = true) (hcompression : a.config.current.compression = false)
    (hexit : a.config.current.exitSpanMin = 0)
    (hsampled : ∀ tx ∈ (a.beginTransaction b).1.transaction? (a.beginTransaction b).2,
      tx.sampled = true)
    (hroom : a.contexts.saved.size + calls.depth < ContextStack.limit)
    (hov : ((a.beginTransaction b).1.runCalls calls).overflowed = false) :
    let final := (((a.beginTransaction b).1.runCalls calls).endTransaction result name).1
    ∃ (records : List SpanRecord) (r : TransactionRecord),
      final.queue = a.queue.putAll (records.map .span ++ [.transaction r]) ∧
      r.spanCount.started = admitted a.config.current.maxSpans 0 calls.hidden.length ∧
      r.spanCount.started + r.spanCount.dropped =
        calls.hidden.length + (calls.hidden.drop r.spanCount.started).sum := by
  intro final
  obtain ⟨tx, tx', htx, htx', -, hreport⟩ :=
    runCalls_between result name hactive hcompression hexit hsampled hroom
  obtain ⟨-, records, r, hqueue, hshown, -, hcount⟩ :=
    hreport (overflowed_eq_false_iff.mp hov htx')
  have hlength := calls.length_trace a.config.current.maxSpans (.within tx.id)
    ⟨(a.beginTransaction b).1.ids, 0, 0⟩
  have hcharges := calls.trace_charges a.config.current.maxSpans tx.id
    ⟨(a.beginTransaction b).1.ids, 0, 0⟩
  obtain ⟨hcreated, hdropped⟩ := Prod.ext_iff.mp (hcharges.trans (foldl_charge _ _ _ _))
  dsimp only at hcreated hdropped
  have hstarted : records.length =
      admitted a.config.current.maxSpans 0 calls.hidden.length := by
    rw [← hshown.length_eq]
    dsimp only at hlength hcreated
    omega
  refine ⟨records, r, hqueue, ?_, ?_⟩
  · rw [hcount]
    exact hstarted
  · rw [hcount, hdropped, hstarted]
    have hle := admitted_le a.config.current.maxSpans 0 calls.hidden.length
    dsimp only
    omega

/-- A leaf is refused that makes one call: it is counted, and so is the call beneath it. -/
theorem runCalls_counts_beneath_refused_leaf :
    let a : Agent :=
      { config := ⟨{ maxSpans := 1, compression := false, exitSpanMin := 0 }, 0⟩
        queue := .memory {} }
    let b : TransactionBuilder :=
      { kind := "request", caller := some (.create (.ofNat 1) (.ofNat 9) true) }
    let calls : Calls :=
      .call { name := "first" } .done
        (.call { name := "query", leaf := true } (.call { name := "connect" } .done .done) .done)
    calls.hidden = [0, 1] ∧
      ∃ (records : List SpanRecord) (r : TransactionRecord),
        (((a.beginTransaction b).1.runCalls calls).endTransaction none none).1.queue =
          a.queue.putAll (records.map .span ++ [.transaction r]) ∧
        r.spanCount.started = 1 ∧ r.spanCount.started + r.spanCount.dropped = 3 := by
  intro a b calls
  have hsampled : ∀ tx ∈ (a.beginTransaction b).1.transaction? (a.beginTransaction b).2,
      tx.sampled = true := by
    decide +kernel
  have hroom : a.contexts.saved.size + calls.depth < ContextStack.limit := by decide
  have hov : ((a.beginTransaction b).1.runCalls calls).overflowed = false := by decide +kernel
  obtain ⟨records, r, hqueue, hstarted, htotal⟩ :=
    @runCalls_counts a b calls none none rfl rfl rfl hsampled hroom hov
  have hone : r.spanCount.started = 1 := hstarted
  refine ⟨rfl, records, r, hqueue, hone, ?_⟩
  rw [htotal, hone]
  rfl

/-- The same calls, without a budget and with room for one of them: a call beneath a leaf is
counted where the leaf is refused, and only there. -/
theorem runCalls_total_depends_on_budget :
    let agent : Nat → Agent := fun maxSpans =>
      { config := ⟨{ maxSpans, compression := false, exitSpanMin := 0 }, 0⟩
        queue := .memory {} }
    let b : TransactionBuilder :=
      { kind := "request", caller := some (.create (.ofNat 1) (.ofNat 9) true) }
    let calls : Calls :=
      .call { name := "first" } .done
        (.call { name := "query", leaf := true } (.call { name := "connect" } .done .done) .done)
    let totals : Nat → List Nat := fun maxSpans =>
      ((((agent maxSpans).beginTransaction b).1.runCalls calls).endTransaction none none).1.queue
        |>.totals
    totals 0 = [2] ∧ totals 1 = [3] := by
  decide +kernel

end Agent

end Telemetry
