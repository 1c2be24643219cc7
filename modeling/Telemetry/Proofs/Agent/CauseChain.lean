import Mathlib.Data.ENat.Lattice
import Telemetry.Proofs.Agent.Story

/-!
# The causes of a captured error

An error may have a source, which may have one in turn, and so on without end. A captured error is
reported with its sources as causes within causes: each record holds the record of its own source
and nothing else, down to the last one. So many sources are kept, and the others are not asked for.

The chain is walked from the error on, while its records are put together from the other end. Both
are inductions on the sources that are kept.

## Main definitions

* `chainLength`: how many sources a chain has.
* `Nested`: records within records, in the order of the sources.

## Main results

* `length_causesFrom`: how many sources are kept.
* `nested_nestCauses`: they are nested in order.
* `Agent.captureError_nests`: what is queued for a captured error.
-/

namespace Telemetry

variable {chain chain' : Nat → Option Cause} {handled : Bool}

/-! ### The sources that are kept -/

/-- How many sources a chain has, up to the place where there is none. It may be endless. -/
noncomputable def chainLength (chain : Nat → Option Cause) : ℕ∞ :=
  ⨅ (n : ℕ) (_ : chain n = none), (n : ℕ∞)

/-- The sources from a place on are kept in order, until there are enough or there is none. -/
theorem causesFrom_spec (chain : Nat → Option Cause) (limit place : Nat) :
    let causes := causesFrom chain limit place
    (∀ i < causes.length, chain (place + i) = causes[i]?) ∧ causes.length ≤ limit ∧
      (causes.length < limit → chain (place + causes.length) = none) := by
  induction limit generalizing place with
  | zero => simp [causesFrom]
  | succ limit ih =>
    cases hsource : chain place with
    | none => simp [causesFrom, hsource]
    | some cause =>
      obtain ⟨hkept, hle, hend⟩ := ih (place + 1)
      have hcauses : causesFrom chain (limit + 1) place =
          cause :: causesFrom chain limit (place + 1) := by
        rw [causesFrom, hsource]
      rw [hcauses]
      refine ⟨fun i hi => ?_, Nat.succ_le_succ hle, fun hlt => ?_⟩
      · cases i with
        | zero => exact hsource
        | succ i =>
          rw [← Nat.add_assoc, Nat.add_right_comm, hkept i (Nat.lt_of_succ_lt_succ hi)]
          rfl
      · rw [List.length_cons, ← Nat.add_assoc, Nat.add_right_comm]
        exact hend (Nat.lt_of_succ_lt_succ hlt)

/-- **How many sources are kept**: all of them, but not more than the limit. -/
theorem length_causesFrom (chain : Nat → Option Cause) (limit : Nat) :
    ((causesFrom chain limit 0).length : ℕ∞) = min (chainLength chain) limit := by
  obtain ⟨hkept, hle, hend⟩ := causesFrom_spec chain limit 0
  simp only [Nat.zero_add] at hkept hend
  have hlower : ((causesFrom chain limit 0).length : ℕ∞) ≤ chainLength chain := by
    refine le_iInf₂ fun n hn => ?_
    by_contra hlt
    have hn' : n < (causesFrom chain limit 0).length := by simpa using hlt
    have hsome := hkept n hn'
    rw [hn, List.getElem?_eq_getElem hn'] at hsome
    cases hsome
  rcases Nat.eq_or_lt_of_le hle with heq | hlt
  · rw [heq] at hlower ⊢
    exact (min_eq_right hlower).symm
  · have hupper : chainLength chain ≤ (causesFrom chain limit 0).length :=
      iInf₂_le (causesFrom chain limit 0).length (hend hlt)
    rw [← le_antisymm hlower hupper, min_eq_left (by exact_mod_cast hle)]

/-- Sources beyond the limit are not asked for. -/
theorem causesFrom_congr {limit place : Nat}
    (h : ∀ i < limit, chain' (place + i) = chain (place + i)) :
    causesFrom chain' limit place = causesFrom chain limit place := by
  induction limit generalizing place with
  | zero => rfl
  | succ limit ih =>
    have hrest : causesFrom chain' limit (place + 1) = causesFrom chain limit (place + 1) := by
      refine ih fun i hi => ?_
      rw [Nat.add_right_comm, Nat.add_assoc]
      exact h (i + 1) (Nat.succ_lt_succ hi)
    rw [causesFrom, causesFrom, hrest, show chain' place = chain place from h 0 limit.succ_pos]

/-! ### Records within records -/

/-- The records of sources within each other, in the order of the sources: there is at most one
record, which is the one for the first source, and it holds the records for the others. -/
inductive Nested (handled : Bool) : List Cause → List ExceptionRecord → Prop
  | none : Nested handled [] []
  | within {c : Cause} {rest : List Cause} {inner : List ExceptionRecord} :
    Nested handled rest inner →
      Nested handled (c :: rest) [.mk c.message (debugTypeName c.debug) handled [] inner]

/-- **The sources are nested in order**, although they are put together from the last one on. -/
theorem nested_nestCauses (handled : Bool) (causes : List Cause) :
    Nested handled causes (nestCauses handled causes) := by
  rw [nestCauses, List.foldl_reverse]
  induction causes with
  | nil => exact .none
  | cons c rest ih => exact .within ih

/-- A queue that keeps everything keeps the exception of a record as it is. -/
theorem MemoryQueue.exists_put_error (q : MemoryQueue) (record : ErrorRecord) (flush : Bool) :
    ∃ kept, (Queue.put (.error record) flush (.memory q)).1 =
        .memory { q with stored := q.stored.push (.error kept, flush) } ∧
      kept.exception = record.exception :=
  ⟨_, rfl, rfl⟩

namespace Agent

variable {a : Agent}

theorem exception_tie (record : ErrorRecord) : (a.tie record).exception = record.exception := by
  unfold tie
  split <;> rfl

theorem id_tie (record : ErrorRecord) : (a.tie record).id = record.id := by
  unfold tie
  split <;> rfl

/-- One record is queued, under the identifier that is returned. -/
theorem queueError_spec (a : Agent) (culprit : Option String) (exception : Option ExceptionRecord)
    (log : Option LogRecord) (flush : Bool) :
    let queued := a.queueError culprit exception log flush
    let record := a.errorRecord culprit exception log
    queued.1.queue = (a.queue.put (.error record) flush).1 ∧ record.id = queued.2 ∧
      record.exception = exception :=
  ⟨queue_noteAll _ _, id_tie _, exception_tie _⟩

/-- **What is queued for a captured error**, whatever the state of the agent and however long the
chain of its sources, which may be endless. One record is put into the queue, with a flush hint if
the error was not handled. Its exception has the messages of the first sources, up to 32 of them,
as causes within causes. Sources after these make no difference. -/
theorem captureError_nests (a : Agent) (message typeName : String) (chain : Nat → Option Cause)
    (handled : Bool) :
    let captured := a.captureError message typeName chain handled
    (∃ record frames causes inner,
      captured.1.queue = (a.queue.put (.error record) (!handled)).1 ∧
        record.id = captured.2 ∧
        record.exception = some (.mk message (shortTypeName typeName) handled frames inner) ∧
        Nested handled causes inner ∧
        (causes.length : ℕ∞) = min (chainLength chain) 32 ∧
        (∀ i < causes.length, chain i = causes[i]?) ∧
        ∀ q, a.queue = .memory q → ∃ kept,
          captured.1.queue = .memory { q with stored := q.stored.push (.error kept, !handled) } ∧
            kept.exception = record.exception) ∧
      ∀ chain', (∀ i < 32, chain' i = chain i) →
        a.captureError message typeName chain' handled = captured := by
  intro captured
  refine ⟨?_, fun chain' h => ?_⟩
  · let frames := a.callStack.take a.config.current.stackTraceLimit
    let exception : ExceptionRecord :=
      .mk message (shortTypeName typeName) handled frames (nestCauses handled (causesOf chain))
    obtain ⟨hqueue, hid, hexception⟩ :=
      (a.collectFrames a.config.current.stackTraceLimit).1.queueError_spec (culprit frames)
        (some exception) none (!handled)
    obtain ⟨hkept, -⟩ := causesFrom_spec chain maxCauses 0
    simp only [Nat.zero_add] at hkept
    refine ⟨_, frames, causesOf chain, _, hqueue, hid, hexception, nested_nestCauses handled _,
      length_causesFrom chain maxCauses, hkept, fun q hq => ?_⟩
    have hmemory : (a.collectFrames a.config.current.stackTraceLimit).1.queue = .memory q := hq
    rw [hmemory] at hqueue
    obtain ⟨record, hput, hsame⟩ := q.exists_put_error _ (!handled)
    exact ⟨record, hqueue.trans hput, hsame⟩
  · have hcauses : causesOf chain' = causesOf chain :=
      causesFrom_congr fun i hi => by simpa using h i hi
    simp only [captured, captureError, hcauses]

/-- An error that is its own source, and was not handled. -/
theorem captureError_nests_endless :
    let a : Agent := { config := ⟨{}, 0⟩, queue := .memory {} }
    let chain : Nat → Option Cause := fun _ => some ⟨"connection lost", "Lost"⟩
    let captured := a.captureError "connection lost" "app::Lost" chain false
    (∃ kept frames causes inner,
      captured.1.queue = .memory { stored := #[(.error kept, true)] } ∧
        kept.exception = some (.mk "connection lost" "Lost" false frames inner) ∧
        Nested false causes inner ∧ causes.length = 32) ∧
      a.captureError "connection lost" "app::Lost" (fun i => if i < 32 then chain i else none)
        false = captured := by
  intro a chain captured
  obtain ⟨⟨_, frames, causes, inner, -, -, hexception, hnested, hlength, -, hqueue⟩, hfirst⟩ :=
    a.captureError_nests "connection lost" "app::Lost" chain false
  have hendless : chainLength chain = ⊤ := by simp [chainLength, chain]
  have hname : shortTypeName "app::Lost" = "Lost" := by decide +kernel
  obtain ⟨kept, hstored, hkept⟩ := hqueue {} rfl
  rw [hendless, min_eq_right le_top] at hlength
  rw [hexception, hname] at hkept
  exact ⟨⟨kept, frames, causes, inner, hstored, hkept, hnested, by exact_mod_cast hlength⟩,
    hfirst _ fun i hi => if_pos hi⟩

end Agent

end Telemetry
