import Telemetry.Proofs.Queue.Delivery

/-!
# What a batch queue asks of its exporter

The worker calls its exporter for two things: to send a batch, and to shut down. The calls of a run
are written down here step by step, as the worker makes them. A batch is never empty and never
larger than the settings allow, since a buffer that is full is sent before the next message is
taken. The call to shut down is made once, by a worker that leaves, and is the last one.

A worker that does not survive an export makes no more calls, and so never shuts the exporter down.

## Main definitions

* `ExporterCall`, `BatchQueue.calls`, `BatchQueue.Traffic.calls`: what the worker asks of the
  exporter, in one step and in a run.
* `BatchQueue.Agrees`, `BatchQueue.Orderly`: the calls so far and the exporter that received them,
  and the room that is left in the buffer.

## Main results

* `BatchQueue.Traffic.orderly_step`: every action keeps calls and exporter in agreement.
* `BatchQueue.Traffic.run_calls`: batches are bounded, and the exporter is shut down once and last.
-/

namespace Telemetry

/-- A call of the worker to its exporter. -/
inductive ExporterCall
  | send (batch : List Event)
  | shutdown

/-- How many events a call carries, if it sends any. -/
def ExporterCall.size? : ExporterCall → Option Nat
  | .send batch => some batch.length
  | .shutdown => none

/-- The calls of a worker that goes on after an export. -/
def AfterExport.calls (next : AfterExport) : List ExporterCall :=
  if next.leaves then [.shutdown] else []

namespace BatchQueue

/-! ### Calls -/

/-- The calls of a worker that begins an export: an empty buffer is not sent. -/
def exportCalls (q : BatchQueue) (next : AfterExport) : List ExporterCall :=
  if q.buffer.isEmpty then next.calls else [.send q.buffer]

/-- The calls of a worker in one step. Clients make none. -/
def calls (q : BatchQueue) : Action → List ExporterCall
  | .queue _ _ | .ask _ | .release => []
  | .receive due =>
    match q.worker, q.channel with
    | .waiting, .event e flush :: rest =>
      let q := { q with channel := rest, buffer := q.buffer ++ [q.chain.process e] }
      if flush || q.config.maxBatchSize ≤ q.buffer.length || due then q.exportCalls .resume else []
    | .waiting, .request r ticket :: rest =>
      { q with channel := rest }.exportCalls (.answer r ticket)
    | _, _ => []
  | .expire =>
    match q.worker, q.channel with
    | .waiting, [] => q.exportCalls .resume
    | _, _ => []
  | .disconnect =>
    match q.worker, q.channel with
    | .waiting, [] => q.exportCalls .leave
    | _, _ => []
  | .complete result =>
    match q.worker with
    | .exporting _ next => if result = .crashed then [] else next.calls
    | _ => []

/-- The calls so far agree with the exporter: it holds the batches that were sent, in order and each
of a size that is allowed, and it is closed if it was shut down, which was the last call. -/
structure Agrees (q : BatchQueue) (limit : Nat) (log : List ExporterCall) : Prop where
  limit_eq : q.config.maxBatchSize = limit
  log_eq : log = q.exporter.batches.toList.map .send ++
    if q.exporter.closed then [.shutdown] else []
  sized : ∀ batch ∈ q.exporter.batches, 1 ≤ batch.length ∧ batch.length ≤ limit
  closed : q.exporter.closed = true → q.isOpen = false

/-- The calls so far agree with the exporter, and there is room in the buffer. -/
structure Orderly (q : BatchQueue) (limit : Nat) (log : List ExporterCall) : Prop where
  agrees : q.Agrees limit log
  room : q.buffer.length < limit

variable {q q' : BatchQueue} {limit : Nat} {log : List ExporterCall}

/-! ### Exports -/

/-- Of a queue only the exporter, the worker and the settings matter. -/
theorem Agrees.congr (h : q.Agrees limit log) (hbatches : q'.exporter.batches = q.exporter.batches)
    (hclosed : q'.exporter.closed = q.exporter.closed) (hconfig : q'.config = q.config)
    (hopen : q.exporter.closed = true → q'.isOpen = false) : q'.Agrees limit log where
  limit_eq := by rw [hconfig, h.limit_eq]
  log_eq := by rw [hbatches, hclosed, h.log_eq]
  sized := by rw [hbatches]; exact h.sized
  closed := by rw [hclosed]; exact hopen

theorem Agrees.not_closed (h : q.Agrees limit log) (hopen : q.isOpen = true) :
    q.exporter.closed = false :=
  eq_false_of_ne_true fun hclosed => Bool.false_ne_true ((h.closed hclosed).symm.trans hopen)

/-- A worker that leaves shuts the exporter down. -/
theorem Agrees.close (h : q.Agrees limit log) (hopen : q.isOpen = true) :
    q.close.Agrees limit (log ++ [.shutdown]) where
  limit_eq := h.limit_eq
  log_eq := by simp [BatchQueue.close, h.log_eq, h.not_closed hopen]
  sized := h.sized
  closed := fun _ => rfl

theorem Agrees.proceed (h : q.Agrees limit log) (hopen : q.isOpen = true)
    (result : Except QueueError Unit) (next : AfterExport) :
    (q.proceed result next).Agrees limit (log ++ next.calls) := by
  have hresume (q' : BatchQueue) (hexporter : q'.exporter = q.exporter)
      (hconfig : q'.config = q.config) : q'.Agrees limit (log ++ []) := by
    rw [List.append_nil]
    exact h.congr (by rw [hexporter]) (by rw [hexporter]) hconfig fun hclosed =>
      absurd hclosed (by simp [h.not_closed hopen])
  cases next with
  | resume => exact hresume _ rfl rfl
  | answer r ticket =>
    cases r with
    | flush => exact hresume _ rfl rfl
    | shutdown =>
      have hreply : (q.reply ticket result).Agrees limit log := h.congr rfl rfl rfl h.closed
      exact hreply.close hopen
  | leave => exact h.close hopen

theorem Agrees.handOff (h : q.Agrees limit log) (hopen : q.isOpen = true) (next : AfterExport)
    (hne : q.buffer ≠ []) (hle : q.buffer.length ≤ limit) :
    (q.handOff next).Agrees limit (log ++ [.send q.buffer]) where
  limit_eq := h.limit_eq
  log_eq := by simp [BatchQueue.handOff, h.log_eq, h.not_closed hopen]
  sized := by
    intro batch hbatch
    rcases Array.mem_push.mp hbatch with hbatch | rfl
    · exact h.sized batch hbatch
    · exact ⟨List.length_pos_of_ne_nil hne, hle⟩
  closed := fun hclosed => absurd hclosed (by simp [BatchQueue.handOff, h.not_closed hopen])

@[simp]
theorem buffer_proceed (q : BatchQueue) (result : Except QueueError Unit) (next : AfterExport) :
    (q.proceed result next).buffer = q.buffer := by
  rcases next with _ | ⟨_ | _, ticket⟩ | _ <;> rfl

@[simp]
theorem buffer_beginExport (q : BatchQueue) (next : AfterExport) :
    (q.beginExport next).buffer = [] := by
  rw [beginExport_eq]
  split
  next hempty => simpa using hempty
  next => rfl

/-- The worker begins an export. The buffer may be full by now, and is empty afterwards. -/
theorem Agrees.beginExport (h : q.Agrees limit log) (hworker : q.worker = .waiting)
    (next : AfterExport) (hmin : 1 ≤ limit) (hle : q.buffer.length ≤ limit) :
    (q.beginExport next).Orderly limit (log ++ q.exportCalls next) where
  agrees := by
    have hopen : q.isOpen = true := Traffic.isOpen_iff.mpr (by simp [hworker])
    rw [beginExport_eq, exportCalls]
    split
    next => exact h.proceed hopen _ next
    next hbuffer => exact h.handOff hopen next (by simpa using hbuffer) hle
  room := by rwa [buffer_beginExport]

namespace Orderly

theorem one_le (h : q.Orderly limit log) : 1 ≤ limit := Nat.one_le_of_lt h.room

theorem beginExport (h : q.Orderly limit log) (hworker : q.worker = .waiting) (next : AfterExport) :
    (q.beginExport next).Orderly limit (log ++ q.exportCalls next) :=
  h.agrees.beginExport hworker next h.one_le h.room.le

/-- An action in which the exporter is not called. -/
theorem append_nil (h : q.Orderly limit log) : q.Orderly limit (log ++ []) := by
  rwa [List.append_nil]

/-! ### Actions -/

/-- The worker takes a message. A buffer that an event has filled is sent at once. -/
theorem receive (h : q.Orderly limit log) (due : Bool) :
    (q.receive due).Orderly limit (log ++ q.calls (.receive due)) := by
  cases hworker : q.worker with
  | waiting =>
    cases hchannel : q.channel with
    | nil => simpa only [BatchQueue.receive, calls, hworker, hchannel] using h.append_nil
    | cons message rest =>
      cases message with
      | event e flush =>
        set taken : BatchQueue :=
          { q with channel := rest, buffer := q.buffer ++ [q.chain.process e] } with htaken
        have hagrees : taken.Agrees limit log := h.agrees.congr rfl rfl rfl h.agrees.closed
        have hlength : taken.buffer.length ≤ limit := by
          rw [htaken, List.length_append]
          exact h.room
        have hreceive : q.receive due =
            if flush || q.config.maxBatchSize ≤ taken.buffer.length || due then
              taken.beginExport .resume
            else taken := by
          simp only [BatchQueue.receive, htaken, hworker, hchannel]
        have hcalls : q.calls (.receive due) =
            if flush || q.config.maxBatchSize ≤ taken.buffer.length || due then
              taken.exportCalls .resume
            else [] := by
          simp only [calls, htaken, hworker, hchannel]
        rw [hreceive, hcalls]
        by_cases hfull : (flush || q.config.maxBatchSize ≤ taken.buffer.length || due) = true
        · rw [if_pos hfull, if_pos hfull]
          exact hagrees.beginExport hworker .resume h.one_le hlength
        · rw [if_neg hfull, if_neg hfull]
          simp only [Bool.or_eq_true, decide_eq_true_eq, not_or, not_le] at hfull
          exact append_nil ⟨hagrees, h.agrees.limit_eq ▸ hfull.1.2⟩
      | request r ticket =>
        have htaken : Orderly { q with channel := rest } limit log :=
          ⟨h.agrees.congr rfl rfl rfl h.agrees.closed, h.room⟩
        simpa only [BatchQueue.receive, calls, hworker, hchannel] using
          htaken.beginExport hworker (.answer r ticket)
  | exporting | gone => simpa only [BatchQueue.receive, calls, hworker] using h.append_nil

theorem expire (h : q.Orderly limit log) : q.expire.Orderly limit (log ++ q.calls .expire) := by
  cases hworker : q.worker with
  | waiting =>
    cases hchannel : q.channel with
    | nil =>
      simpa only [BatchQueue.expire, calls, hworker, hchannel] using h.beginExport hworker .resume
    | cons => simpa only [BatchQueue.expire, calls, hworker, hchannel] using h.append_nil
  | exporting | gone => simpa only [BatchQueue.expire, calls, hworker] using h.append_nil

theorem disconnect (h : q.Orderly limit log) :
    q.disconnect.Orderly limit (log ++ q.calls .disconnect) := by
  cases hworker : q.worker with
  | waiting =>
    cases hchannel : q.channel with
    | nil =>
      simpa only [BatchQueue.disconnect, calls, hworker, hchannel] using
        h.beginExport hworker .leave
    | cons => simpa only [BatchQueue.disconnect, calls, hworker, hchannel] using h.append_nil
  | exporting | gone => simpa only [BatchQueue.disconnect, calls, hworker] using h.append_nil

theorem proceed (h : q.Orderly limit log) (hopen : q.isOpen = true)
    (result : Except QueueError Unit) (next : AfterExport) :
    (q.proceed result next).Orderly limit (log ++ next.calls) where
  agrees := h.agrees.proceed hopen result next
  room := by
    rw [buffer_proceed]
    exact h.room

theorem complete (h : q.Orderly limit log) (result : ExportResult) :
    (q.complete result).Orderly limit (log ++ q.calls (.complete result)) := by
  cases hworker : q.worker with
  | exporting batch next =>
    have hopen : q.isOpen = true := Traffic.isOpen_iff.mpr (by simp [hworker])
    simp only [BatchQueue.complete, calls, hworker]
    cases result with
    | delivered =>
      have hdelivered : Orderly { q with exporter :=
          { q.exporter with delivered := q.exporter.delivered ++ batch.toArray } } limit log :=
        ⟨h.agrees.congr rfl rfl rfl h.agrees.closed, h.room⟩
      exact hdelivered.proceed hopen _ next
    | failed text => exact h.proceed hopen _ next
    | crashed => exact append_nil ⟨h.agrees.congr rfl rfl rfl fun _ => rfl, h.room⟩
  | waiting | gone => simpa only [BatchQueue.complete, calls, hworker] using h.append_nil

theorem queue (h : q.Orderly limit log) (e : Event) (flush : Bool) :
    (q.queue e flush).1.Orderly limit log := by
  rcases Traffic.queue_cases q e flush with ⟨-, heq⟩ | ⟨-, -, heq⟩ | ⟨-, heq⟩ <;> rw [heq]
  · exact h
  · exact ⟨h.agrees.congr rfl rfl rfl h.agrees.closed, h.room⟩
  · exact ⟨h.agrees.congr rfl rfl rfl h.agrees.closed, h.room⟩

theorem ask (h : q.Orderly limit log) (r : Request) : (q.ask r).Orderly limit log := by
  rcases Traffic.ask_cases q r with ⟨-, heq⟩ | ⟨-, -, heq⟩ | ⟨-, -, heq⟩ <;> rw [heq]
  · exact h
  · exact ⟨h.agrees.congr rfl rfl rfl h.agrees.closed, h.room⟩
  · exact ⟨h.agrees.congr rfl rfl rfl h.agrees.closed, h.room⟩

end Orderly

namespace Traffic

variable {s : Traffic}

/-! ### Runs -/

/-- The calls of the worker in one action. -/
def callsOf (s : Traffic) : Action → List ExporterCall
  | .disconnect => if s.released then s.queue.calls .disconnect else []
  | a => s.queue.calls a

/-- The calls of the worker in a run. -/
def calls (s : Traffic) : List Action → List ExporterCall
  | [] => []
  | a :: rest => s.callsOf a ++ (s.step a).calls rest

/-- Every action keeps calls and exporter in agreement, and room in the buffer. -/
theorem orderly_step (h : s.queue.Orderly limit log) (a : Action) :
    (s.step a).queue.Orderly limit (log ++ s.callsOf a) := by
  cases a with
  | queue e flush =>
    refine Orderly.append_nil ?_
    cases hreleased : s.released
    · simpa [step, hreleased, handOver] using h.queue e flush
    · simpa [step, hreleased] using h
  | ask r =>
    refine Orderly.append_nil ?_
    cases hreleased : s.released
    · simpa [step, hreleased, Traffic.ask] using h.ask r
    · simpa [step, hreleased] using h
  | release => exact h.append_nil
  | receive due => exact h.receive due
  | expire => exact h.expire
  | disconnect =>
    cases hreleased : s.released
    · simpa [step, callsOf, hreleased] using h
    · simpa [step, callsOf, hreleased] using h.disconnect
  | complete result => exact h.complete result

theorem orderly_run (h : s.queue.Orderly limit log) (actions : List Action) :
    (s.run actions).queue.Orderly limit (log ++ s.calls actions) := by
  induction actions generalizing s log with
  | nil => exact h.append_nil
  | cons a rest ih =>
    have hrest := ih (orderly_step h a)
    rwa [List.append_assoc] at hrest

/-- **Batches are bounded, and the exporter is shut down once and last**, whatever the settings are,
and whatever clients, worker and exporter do, as long as the worker survives its exports. One that
does not makes no more calls. -/
theorem run_calls (settings : BatchSettings) (chain : ProcessorChain) (actions : List Action) :
    let config := settings.build
    let s := (start config chain).run actions
    let calls := (start config chain).calls actions
    let sent : List ExporterCall := s.queue.exporter.batches.toList.map .send
    (1 ≤ config.maxBatchSize ∧ config.maxBatchSize ≤ config.maxQueueSize) ∧
    s.queue.buffer.length < config.maxBatchSize ∧
    (∀ batch, .send batch ∈ calls → 1 ≤ batch.length ∧ batch.length ≤ config.maxBatchSize) ∧
    -- The call to shut down is made when the worker leaves, and then nothing else is called.
    (.complete .crashed ∉ actions →
      (s.queue.isOpen = true → calls = sent) ∧
      (s.queue.isOpen = false → calls = sent ++ [.shutdown])) ∧
    (calls = sent ∨ calls = sent ++ [.shutdown] ∧ s.queue.isOpen = false) := by
  intro config s calls sent
  have hbounds := settings.build_bounds
  have hstart : (start config chain).queue.Orderly config.maxBatchSize [] :=
    ⟨⟨rfl, rfl, by simp [start], by simp [start]⟩, hbounds.1⟩
  have hend : s.queue.Orderly config.maxBatchSize calls := orderly_run hstart actions
  have hlog := hend.agrees.log_eq
  refine ⟨hbounds, hend.room, fun batch hbatch => ?_, fun hactions => ?_, ?_⟩
  · have hsent : batch ∈ s.queue.exporter.batches := by
      rw [hlog, List.mem_append] at hbatch
      rcases hbatch with hbatch | hbatch
      · simpa using hbatch
      · split at hbatch <;> simp at hbatch
    exact hend.agrees.sized batch hsent
  · have hsurvived : (!s.queue.isOpen && !s.queue.exporter.closed) = false :=
      hasCrashed_run rfl hactions
    refine ⟨fun hopen => ?_, fun hopen => ?_⟩
    · rw [hlog, hend.agrees.not_closed hopen]
      simp [sent]
    · have hclosed : s.queue.exporter.closed = true := by simpa [hopen] using hsurvived
      rw [hlog, hclosed]
      simp [sent]
  · rw [hlog]
    cases hclosed : s.queue.exporter.closed with
    | false => exact .inl (by simp [sent])
    | true => exact .inr ⟨by simp [sent], hend.agrees.closed hclosed⟩

/-- Settings that ask for batches of five events, in a queue that has room for two. -/
def narrowSettings : BatchSettings := { maxQueueSize := 2, maxBatchSize := 5 }

/-- Two events, whose export fails, then a third one and a request to shut down. -/
def threeEvents : List Action :=
  let e : Event := .span default
  [.queue e false, .queue e false, .receive false, .receive false, .complete (.failed "refused"),
    .expire, .queue e false, .ask .shutdown, .receive false, .receive false, .complete .delivered,
    .receive false, .expire]

/-- The first two events are sent when the buffer is full, which is at two, and the third before the
exporter is shut down. -/
theorem run_calls_shutdown :
    ((start narrowSettings.build .empty).calls threeEvents).map ExporterCall.size? =
      [some 2, some 1, none] ∧
    ((start narrowSettings.build .empty).run threeEvents).queue.isOpen = false ∧
    (start narrowSettings.build .empty).calls threeEvents =
      ((start narrowSettings.build .empty).run threeEvents).queue.exporter.batches.toList.map .send
        ++ [.shutdown] := by
  have hopen : ((start narrowSettings.build .empty).run threeEvents).queue.isOpen = false := by
    decide +kernel
  have hlaw := run_calls narrowSettings .empty threeEvents
  exact ⟨by decide +kernel, hopen, (hlaw.2.2.2.1 (by simp [threeEvents])).2 hopen⟩

end Traffic

end BatchQueue

end Telemetry
