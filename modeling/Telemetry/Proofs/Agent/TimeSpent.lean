import Telemetry.Proofs.Agent.Budget
import Telemetry.Proofs.Agent.Story
import Telemetry.Proofs.Transaction.TimeSpent

/-!
# When no duration overflows

Durations can be given by the program, and any duration that a clock can represent may be given. Two
of them together need not be representable. Whether a run ever adds up too much can be told from its
story: for each transaction, from the time of the stand-ins that were counted and of the spans that
were short enough to be merged or left out, and from when those that may be merged ended.

Where that time can be represented no operation overflows, so every one of them runs to its end.
Where it cannot, a statistic may overflow: the time of a span refused for the budget is not limited
by anything.

## Main definitions

* `Agent.Timed`: an agent and its story, where every sum is within the time that the story tells of.

## Main results

* `Agent.Tells.timed`: one operation.
* `Agent.run_never_overflows`: no operation of a run overflows.
-/

namespace Telemetry

namespace Agent

variable {a a' : Agent} {S S' : Story} {actions : List Action}

/-- The story has a chronicle for each transaction, and no sum exceeds the time that it tells of. -/
structure Timed (a : Agent) (S : Story) : Prop extends Chronicled a S where
  timed : ∀ {t tx}, a.transaction? t = some tx → tx.Timed ((S.of t).time tx.limits)

/-- A clock can represent the time that the story tells of. -/
def Fits (a : Agent) (S : Story) : Prop :=
  ∀ t tx, a.transaction? t = some tx → (S.of t).Fits tx.limits

theorem Timed.overflowed (h : a.Timed S) : a.overflowed = false :=
  overflowed_eq_false_iff.mpr fun htx => (h.timed htx).overflowed

/-- **One operation** does not overflow if the time fits after it. -/
theorem Tells.timed (h : Tells a S' a') (ht : a.Timed S) (hfits : a'.Fits (S ++ S')) :
    a'.Timed (S ++ S') := by
  have htimed : ∀ {t tx'}, a'.transaction? t = some tx' →
      tx'.Timed (((S ++ S').of t).time tx'.limits) := by
    intro t tx' htx'
    cases htx : a.transaction? t with
    | none =>
      obtain ⟨hnothing, hnew⟩ := h.new htx
      rw [Story.of_append, ht.unknown htx, hnothing]
      exact Transaction.timed_of_isNew (hnew tx' htx')
    | some tx =>
      obtain ⟨tx'', htx'', htold⟩ := h.old htx
      obtain rfl := Option.some.inj (htx''.symm.trans htx')
      have hfit := hfits t tx'' htx'
      rw [htold.step.grows.limits, Story.of_append] at hfit ⊢
      exact htold.timed (ht.known htx) (ht.timed htx) hfit
  have hov : a'.overflowed = false :=
    overflowed_eq_false_iff.mpr fun htx' => (htimed htx').overflowed
  exact ⟨h.chronicled hov ht.toChronicled, htimed⟩

/-- What fits at the end of a run has fitted before. -/
theorem Fits.of_foldl (h : (actions.foldl perform a).Fits (S ++ S')) : a.Fits S := by
  intro t tx htx
  obtain ⟨tx', htx', hgrows⟩ := grows_foldl htx actions
  have hfit := h t tx' htx'
  rw [hgrows.limits, Story.of_append] at hfit
  exact hfit.of_append

theorem Timed.foldl (ht : a.Timed S)
    (hfits : (actions.foldl perform a).Fits (S ++ a.story actions)) :
    (actions.foldl perform a).Timed (S ++ a.story actions) := by
  induction actions generalizing a S with
  | nil => simpa [story] using ht
  | cons act rest ih =>
    rw [story, ← List.append_assoc] at hfits ⊢
    have hnow : (a.perform act).Fits (S ++ a.happenings act) := Fits.of_foldl hfits
    exact ih ((a.perform_tells act).timed ht hnow) hfits

/-- **No operation overflows.** Let any operations happen to an agent that has not begun a
transaction yet. For each transaction, let a clock be able to represent the time together of the
stand-ins that were counted and of the spans that were short enough to be left out or merged; and
for those that may be merged, the time from the start of the transaction to their end. Then no
duration ever overflows, and every operation does all that it is to do:

* no statistic of dropped spans exceeds that time, nor does a composite that is held;
* every span that has ended is told by the chronicle, and what has left the buffers is reported or
  left out and counted;
* every span that was admitted is accounted for, and the counters follow what was released.

A queue that keeps everything has the events of the story. -/
theorem run_never_overflows (hnone : a.transactions = #[])
    (hfits : ∀ t tx, (a.run actions).agent.transaction? t = some tx →
      ((a.story actions).of t).Fits tx.limits) :
    (∀ before, before <+: actions → (a.run before).agent.overflowed = false) ∧
    (∀ t tx, (a.run actions).agent.transaction? t = some tx →
      let C := (a.story actions).of t
      (∀ e ∈ tx.stats, e.sum ≤ C.time tx.limits) ∧
      (∀ f ∈ tx.held, ∀ c, f.composite = some c → c.sum ≤ C.time tx.limits) ∧
      (∀ i s, tx.spans[i]? = some s → s.ended = true → ∃ f, .ended i s.parent f ∈ C) ∧
      tx.created = tx.spans.countP (!·.ended) + (tx.held.map (·.count)).sum +
        ((Journal.records C.journal).map (·.weight)).sum + Journal.discarded C.journal ∧
      tx.spanCount.started = (Journal.records C.journal).length ∧
      tx.spanCount.dropped =
        Journal.discarded C.journal + tx.standIns.countP (·.reason = .maxSpansExceeded)) ∧
    a.Received (a.story actions).events (a.run actions).agent := by
  have hinit : a.Timed [] :=
    { known := fun {t tx} htx => by simp [transaction?, hnone] at htx
      unknown := fun _ => rfl
      timed := fun {t tx} htx => by simp [transaction?, hnone] at htx }
  have ht : (a.run actions).agent.Timed (a.story actions) := by
    rw [agent_run] at hfits ⊢
    exact hinit.foldl hfits
  refine ⟨?_, fun t tx htx => ?_, story_received ht.overflowed⟩
  · rintro before ⟨after, rfl⟩
    have hov := ht.overflowed
    rw [agent_run, List.foldl_append] at hov
    rw [agent_run]
    exact overflowed_of_foldl hov
  · have hc := ht.known htx
    refine ⟨fun e he => ?_, fun f hf c hcomposite => ?_,
      fun i s hs hended => (hc.recounted.ended hs hended).2,
      hc.conserved.created_eq, hc.conserved.started, hc.conserved.spanCount_dropped⟩
    · exact (Nat.le_add_right _ _).trans ((ht.timed htx).stats e he)
    · have htime : tx.limits.time f = c.sum := by rw [Limits.time, hcomposite]
      rw [← htime]
      exact (tx.time_le_timeHeld hf).trans (ht.timed htx).pending_le

/-- The refused call ends, too, and the transaction. -/
def endedCalls : List Action :=
  nestedCalls ++ [.endSpan (.standIn 0 0) .success, .finishTransaction 0 none none]

/-- Two calls of five nanoseconds are merged, a shorter one is left out, and one was refused. -/
theorem run_never_overflows_endedCalls :
    ((inMemory.run endedCalls).agent.transaction? 0).map (fun tx =>
      (((inMemory.story endedCalls).of 0).time tx.limits, tx.stats.map (·.sum))) =
        some (16, [1, 5]) ∧
    (∀ before, before <+: endedCalls → (inMemory.run before).agent.overflowed = false) ∧
    ∃ tx, (inMemory.run endedCalls).agent.transaction? 0 = some tx ∧
      ∀ e ∈ tx.stats, e.sum ≤ ((inMemory.story endedCalls).of 0).time tx.limits := by
  have hsize : (inMemory.run endedCalls).agent.transactions.size = 1 := by decide +kernel
  have hsome : ((inMemory.run endedCalls).agent.transaction? 0).isSome = true := by
    decide +kernel
  have hfits : ((inMemory.run endedCalls).agent.transaction? 0).all (fun tx =>
      decide (((inMemory.story endedCalls).of 0).Fits tx.limits)) = true := by decide +kernel
  obtain ⟨tx, htx⟩ := Option.isSome_iff_exists.mp hsome
  rw [htx, Option.all_some, decide_eq_true_eq] at hfits
  have hall : ∀ t tx, (inMemory.run endedCalls).agent.transaction? t = some tx →
      ((inMemory.story endedCalls).of t).Fits tx.limits := by
    intro t tx' htx'
    have hlt := (Array.getElem?_eq_some_iff.mp htx').1
    obtain rfl : t = 0 := Nat.lt_one_iff.mp (hsize ▸ hlt)
    obtain rfl := Option.some.inj (htx.symm.trans htx')
    exact hfits
  obtain ⟨hnever, hkept, -⟩ := run_never_overflows rfl hall
  exact ⟨by decide +kernel, hnever, tx, htx, (hkept 0 tx htx).1⟩

/-- Two calls that were refused, each of the longest duration. -/
def longestCalls : List Action :=
  let call : SpanBuilder := { kind := "db", leaf := true, duration := some Duration.longest }
  [.beginTransaction { kind := "request", caller := some (.create (.ofNat 1) (.ofNat 9) true) },
    .beginSpan 0 {} none, .beginSpan 0 call none, .beginSpan 0 call none,
    .endSpan (.standIn 0 0) .success, .endSpan (.standIn 0 1) .success]

/-- **The end of the second one overflows.** -/
theorem not_never_overflows_longestCalls :
    let a : Agent := { inMemory with config := ⟨{ maxSpans := 1 }, 0⟩ }
    (a.run (longestCalls.take 5)).agent.overflowed = false ∧
    (a.run longestCalls).agent.overflowed = true ∧
    ¬ ∀ actions : List Action, (a.run actions).agent.overflowed = false := by
  intro a
  have hov : (a.run longestCalls).agent.overflowed = true := by decide +kernel
  refine ⟨by decide +kernel, hov, fun h => ?_⟩
  exact Bool.false_ne_true ((h longestCalls).symm.trans hov)

end Agent

end Telemetry
