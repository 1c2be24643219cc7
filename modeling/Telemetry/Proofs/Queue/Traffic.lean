import Mathlib.Data.List.Infix
import Telemetry.Queue.Batch

/-!
# What becomes of the events that a batch queue accepts

Any number of clients call a batch queue while its worker works. Each call and each step of the
worker is an action, and a run is any sequence of them: it decides who comes next, whether the time
is up, and how an export ends. A client that waits for room has not yet handed over its request, and
one that waits for an answer goes on when the answer is there; neither is an action.

An accepted event is always in one of three places: in a batch that the exporter was handed, in the
buffer, or in the channel, and these follow one another in the order of acceptance. So it is enough
to count. A request goes through the channel like an event, and the number of events that had been
accepted when it was handed over, its mark, is the number of those that have left the channel when
it is taken out.

Only a worker that does not survive an export loses events, those that the channel still holds.

## Main definitions

* `BatchQueue.Action`, `BatchQueue.ask`: what clients and the worker do.
* `BatchQueue.Traffic`, `BatchQueue.Traffic.step`: a queue, and what it has accepted.
* `BatchQueue.inOrder`: the three places.
* `BatchQueue.Traffic.Sound`: the invariant.

## Main results

* `BatchQueue.Traffic.Sound.step`: every action keeps the invariant.
-/

namespace Telemetry

/-- The event that a message carries. -/
def Message.event? : Message → Option Event
  | .event e _ => some e
  | .request _ _ => none

/-- The worker leaves once the export has ended. -/
def AfterExport.leaves : AfterExport → Bool
  | .leave | .answer .shutdown _ => true
  | .resume | .answer .flush _ => false

namespace BatchQueue

/-! ### Actions -/

/-- What happens to a queue. -/
inductive Action
  /-- A client hands over an event. -/
  | queue (e : Event) (flush : Bool)
  /-- A client hands over a request. -/
  | ask (r : Request)
  /-- The last client lets go of the queue. -/
  | release
  /-- The worker takes a message, and may find that its time is up. -/
  | receive (due : Bool)
  | expire
  | disconnect
  | complete (result : ExportResult)

/-- A call that asks for something, up to where it waits for the answer. -/
def ask (q : BatchQueue) (r : Request) : BatchQueue :=
  if q.isShutdown then q
  else
    let q := match r with
      | .flush => q
      | .shutdown => { q with isShutdown := true }
    if q.isOpen then q.request r else q

/-- What the exporter was handed. -/
def handed (q : BatchQueue) : List Event := q.exporter.batches.toList.flatten

/-- The events that the channel holds. -/
def pending (q : BatchQueue) : List Event := q.channel.filterMap Message.event?

/-- All that is there of what was accepted: what the exporter was handed, then what the buffer
holds, then what the channel holds, redacted. -/
def inOrder (q : BatchQueue) : List Event :=
  q.handed ++ q.buffer ++ q.pending.map q.chain.process

/-- The worker has not survived an export. -/
def hasCrashed (q : BatchQueue) : Bool := !q.isOpen && !q.exporter.closed

/-- The queue once a buffer that is not empty has been handed to the exporter. -/
def handOff (q : BatchQueue) (next : AfterExport) : BatchQueue :=
  { q with
    buffer := []
    worker := .exporting q.buffer next
    exporter := { q.exporter with batches := q.exporter.batches.push q.buffer } }

theorem beginExport_eq (q : BatchQueue) (next : AfterExport) :
    q.beginExport next =
      if q.buffer.isEmpty then q.proceed (.ok ()) next else q.handOff next := rfl

@[simp]
theorem handed_handOff (q : BatchQueue) (next : AfterExport) :
    (q.handOff next).handed = q.handed ++ q.buffer := by
  simp [handed, handOff]

/-- A queue with its clients, and what happened at its door. -/
structure Traffic where
  queue : BatchQueue
  /-- The events that came to lie in the channel, oldest first. -/
  accepted : List Event := []
  /-- How many events were handed over while the queue was not shut down. -/
  offered : Nat := 0
  /-- How many events had been accepted when a request was handed over, by ticket. -/
  marks : List Nat := []
  /-- No client holds the queue any more. -/
  released : Bool := false

namespace Traffic

/-- What was accepted, redacted. -/
def expected (s : Traffic) : List Event := s.accepted.map s.queue.chain.process

/-- What happens at the door when a client hands over an event. -/
def handOver (s : Traffic) (e : Event) (flush : Bool) : Traffic :=
  let q := (s.queue.queue e flush).1
  { s with
    queue := q
    accepted := if s.queue.channel.length < q.channel.length then s.accepted ++ [e] else s.accepted
    offered := if s.queue.isShutdown then s.offered else s.offered + 1 }

/-- What happens at the door when a client asks for something. -/
def ask (s : Traffic) (r : Request) : Traffic :=
  let q := s.queue.ask r
  { s with
    queue := q
    marks := if s.queue.tickets < q.tickets then s.marks ++ [s.accepted.length] else s.marks }

/-- The traffic after one more action. Clients that have let go of the queue do nothing, and the
worker can only find out that they have once they have. -/
def step (s : Traffic) : Action → Traffic
  | .queue e flush => if s.released then s else s.handOver e flush
  | .ask r => if s.released then s else s.ask r
  | .release => { s with released := true }
  | .receive due => { s with queue := s.queue.receive due }
  | .expire => { s with queue := s.queue.expire }
  | .disconnect => if s.released then { s with queue := s.queue.disconnect } else s
  | .complete result => { s with queue := s.queue.complete result }

/-! ### The invariant -/

variable {s : Traffic} {next : AfterExport}

/-- What follows an export is in order: a request that is answered was handed over after no more
events than the exporter will have been handed by then, and a worker that leaves leaves nothing
behind, now or later. -/
structure Ready (s : Traffic) (next : AfterExport) : Prop where
  answer : ∀ r ticket, next = .answer r ticket →
    ∃ n, s.marks[ticket]? = some n ∧ n ≤ s.queue.handed.length + s.queue.buffer.length
  leave : next.leaves = true →
    s.queue.channel = [] ∧ (s.queue.isShutdown = true ∨ s.released = true)

/-- A request in the channel was handed over after the events before it, and before the events
behind it. Nothing is behind one that shuts the queue down. -/
def Placed (s : Traffic) (r : Request) (ticket : Nat) (after : List Message) : Prop :=
  (∃ n, s.marks[ticket]? = some n ∧
    n + (after.filterMap Message.event?).length = s.accepted.length) ∧
  (r = .shutdown → after = [] ∧ s.queue.isShutdown = true)

/-- What was accepted before a request that is answered has been handed to the exporter. -/
def Answered (s : Traffic) (answers : List (Nat × Except QueueError Unit)) : Prop :=
  ∀ ticket result, (ticket, result) ∈ answers →
    ∃ n, s.marks[ticket]? = some n ∧ n ≤ s.queue.handed.length

/-- Nothing that was accepted is lost, out of order, or there twice. -/
structure Sound (s : Traffic) : Prop where
  kept : s.queue.inOrder <+: s.expected
  intact : s.queue.hasCrashed = false → s.queue.inOrder = s.expected
  counted : s.offered = s.accepted.length + s.queue.dropped
  tickets : s.marks.length = s.queue.tickets
  placed : ∀ before r ticket after, s.queue.channel = before ++ .request r ticket :: after →
    s.Placed r ticket after
  exporting : ∀ batch next, s.queue.worker = .exporting batch next →
    s.queue.buffer = [] ∧ s.Ready next
  gone : s.queue.worker = .gone → s.queue.channel = []
  closed : s.queue.exporter.closed = true → s.queue.worker = .gone
  answered : s.Answered s.queue.answers

theorem sound_new (config : BatchConfig) (chain : ProcessorChain) :
    Sound ⟨{ config, chain, exporter := {} }, [], 0, [], false⟩ where
  kept := List.prefix_rfl
  intact := fun _ => rfl
  counted := rfl
  tickets := rfl
  placed := by simp
  exporting := nofun
  gone := nofun
  closed := nofun
  answered := by simp [Answered]

/-- Only what the exporter was handed, and whether it is closed, matters of it. -/
theorem Sound.exporter_congr (h : s.Sound) (exporter : Exporter)
    (hbatches : exporter.batches = s.queue.exporter.batches)
    (hclosed : exporter.closed = s.queue.exporter.closed) :
    Sound { s with queue := { s.queue with exporter } } := by
  have hhanded : ({ s.queue with exporter } : BatchQueue).handed = s.queue.handed := by
    simp [handed, hbatches]
  have horder : ({ s.queue with exporter } : BatchQueue).inOrder = s.queue.inOrder := by
    rw [inOrder, hhanded]
    rfl
  refine
    { kept := by rw [horder]; exact h.kept
      intact := fun hcrashed => ?_
      counted := h.counted
      tickets := h.tickets
      placed := fun before r ticket after hsplit =>
        ⟨(h.placed before r ticket after hsplit).1, (h.placed before r ticket after hsplit).2⟩
      exporting := fun batch next hworker => ?_
      gone := h.gone
      closed := fun hc => h.closed (hclosed ▸ hc)
      answered := fun ticket result hanswer => ?_ }
  · rw [horder]
    exact h.intact (by rw [← hcrashed, hasCrashed, hasCrashed, hclosed]; rfl)
  · obtain ⟨hbuffer, hready⟩ := h.exporting batch next hworker
    refine ⟨hbuffer, fun r ticket hnext => ?_, hready.leave⟩
    rw [hhanded]
    exact hready.answer r ticket hnext
  · rw [hhanded]
    exact h.answered ticket result hanswer

theorem Sound.release (h : s.Sound) : Sound { s with released := true } where
  kept := h.kept
  intact := h.intact
  counted := h.counted
  tickets := h.tickets
  placed := fun before r ticket after hsplit =>
    ⟨(h.placed before r ticket after hsplit).1, (h.placed before r ticket after hsplit).2⟩
  exporting := fun batch next hworker =>
    ⟨(h.exporting batch next hworker).1, (h.exporting batch next hworker).2.answer,
      fun hleaves => ⟨((h.exporting batch next hworker).2.leave hleaves).1, .inr rfl⟩⟩
  gone := h.gone
  closed := h.closed
  answered := h.answered

/-! ### Clients -/

theorem isOpen_iff {q : BatchQueue} : q.isOpen = true ↔ q.worker ≠ .gone := by
  unfold isOpen
  split <;> simp_all

theorem Sound.intact_of_open (h : s.Sound) (hopen : s.queue.isOpen = true) :
    s.queue.inOrder = s.expected :=
  h.intact (by simp [hasCrashed, hopen])

/-- What a call that hands over an event comes to. -/
theorem queue_cases (q : BatchQueue) (e : Event) (flush : Bool) :
    (q.isShutdown = true ∧ (q.queue e flush).1 = q) ∨
    (q.isShutdown = false ∧ q.isOpen = true ∧
      (q.queue e flush).1 = { q with channel := q.channel ++ [.event e flush] }) ∨
    (q.isShutdown = false ∧ (q.queue e flush).1 = { q with dropped := q.dropped + 1 }) := by
  unfold BatchQueue.queue
  split
  next hshut => exact .inl ⟨hshut, rfl⟩
  next hshut =>
    have hshut := eq_false_of_ne_true hshut
    split
    next hroom =>
      have hopen : q.isOpen = true := (Bool.and_eq_true_iff.mp hroom).1
      exact .inr (.inl ⟨hshut, hopen, rfl⟩)
    next => exact .inr (.inr ⟨hshut, rfl⟩)

/-- A request that stands in a channel to which a message was added was there before, unless it is
the message. -/
theorem split_append_singleton {l before after : List Message} {m r : Message}
    (h : l ++ [m] = before ++ r :: after) :
    (after = [] ∧ m = r ∧ before = l) ∨ ∃ after', after = after' ++ [m] ∧
      l = before ++ r :: after' := by
  rcases List.eq_nil_or_concat after with rfl | ⟨after', last, rfl⟩
  · obtain ⟨rfl, hm⟩ := List.append_inj' h rfl
    exact .inl ⟨rfl, List.singleton_inj.mp hm, rfl⟩
  · rw [List.concat_eq_append, ← List.cons_append, ← List.append_assoc] at h
    obtain ⟨rfl, hm⟩ := List.append_inj' h rfl
    obtain rfl := List.singleton_inj.mp hm
    exact .inr ⟨after', List.concat_eq_append, rfl⟩

/-- An event is accepted. -/
theorem Sound.accept (h : s.Sound) (hreleased : s.released = false)
    (hshut : s.queue.isShutdown = false) (hopen : s.queue.isOpen = true) (e : Event)
    (flush : Bool) :
    Sound { s with
      queue := { s.queue with channel := s.queue.channel ++ [.event e flush] }
      accepted := s.accepted ++ [e]
      offered := s.offered + 1 } := by
  have horder : ∀ q : BatchQueue,
      q = { s.queue with channel := s.queue.channel ++ [.event e flush] } →
      q.inOrder = (s.accepted ++ [e]).map s.queue.chain.process := by
    rintro q rfl
    rw [List.map_append, ← expected, ← h.intact_of_open hopen]
    simp [inOrder, handed, pending, Message.event?]
  refine
    { kept := ?_
      intact := fun _ => horder _ rfl
      counted := ?_
      tickets := h.tickets
      placed := ?_
      exporting := fun batch next hworker => ?_
      gone := fun hworker => absurd hworker (isOpen_iff.mp hopen)
      closed := h.closed
      answered := h.answered }
  · rw [expected, horder _ rfl]
  · have hcounted := h.counted
    simp only [List.length_append, List.length_singleton]
    omega
  · intro before r ticket after hsplit
    rcases split_append_singleton hsplit with ⟨-, hm, -⟩ | ⟨after', rfl, hbefore⟩
    · cases hm
    · obtain ⟨⟨n, hn, hlength⟩, hlast⟩ := h.placed before r ticket after' hbefore
      refine ⟨⟨n, hn, ?_⟩, fun hr => ?_⟩
      · simp only [List.filterMap_append, List.length_append]
        simp [Message.event?]
        omega
      · exact absurd (hlast hr).2 (by simp [hshut])
  · obtain ⟨hbuffer, hready⟩ := h.exporting batch next hworker
    refine ⟨hbuffer, hready.answer, fun hleaves => ?_⟩
    rcases (hready.leave hleaves).2 with hdown | hdown
    · exact absurd hdown (by simp [hshut])
    · exact absurd hdown (by simp [hreleased])

theorem Sound.handOver (h : s.Sound) (hreleased : s.released = false) (e : Event) (flush : Bool) :
    Sound (s.handOver e flush) := by
  rcases queue_cases s.queue e flush with ⟨hshut, heq⟩ | ⟨hshut, hopen, heq⟩ | ⟨hshut, heq⟩
  · have hsame : s.handOver e flush = s := by simp [Traffic.handOver, heq, hshut]
    rwa [hsame]
  · have hacc := h.accept hreleased hshut hopen e flush
    simpa [Traffic.handOver, heq, hshut] using hacc
  · have hdrop : s.handOver e flush = { s with
        queue := { s.queue with dropped := s.queue.dropped + 1 }
        offered := s.offered + 1 } := by
      simp [Traffic.handOver, heq, hshut]
    have hcounted := h.counted
    rw [hdrop]
    exact
      { kept := h.kept
        intact := h.intact
        counted := by simp only; omega
        tickets := h.tickets
        placed := fun before r ticket after hsplit =>
          ⟨(h.placed before r ticket after hsplit).1, (h.placed before r ticket after hsplit).2⟩
        exporting := fun batch next hworker =>
          ⟨(h.exporting batch next hworker).1, (h.exporting batch next hworker).2.answer,
            (h.exporting batch next hworker).2.leave⟩
        gone := h.gone
        closed := h.closed
        answered := h.answered }

/-- What a call that asks for something comes to. -/
theorem ask_cases (q : BatchQueue) (r : Request) :
    (q.isShutdown = true ∧ q.ask r = q) ∨
    (q.isShutdown = false ∧ q.isOpen = false ∧
      q.ask r = { q with isShutdown := decide (r = .shutdown) }) ∨
    (q.isShutdown = false ∧ q.isOpen = true ∧
      q.ask r = { q with
        isShutdown := decide (r = .shutdown)
        channel := q.channel ++ [.request r q.tickets]
        tickets := q.tickets + 1 }) := by
  cases hshut : q.isShutdown
  case true => exact .inl ⟨rfl, by simp [BatchQueue.ask, hshut]⟩
  case false =>
    have hflag : (match r with
        | .flush => q
        | .shutdown => { q with isShutdown := true }) =
        { q with isShutdown := decide (r = .shutdown) } := by
      cases r
      · simp [← hshut]
      · rfl
    unfold BatchQueue.ask
    rw [hflag, if_neg (by simp [hshut])]
    cases hopen : q.isOpen
    · exact .inr (.inl ⟨rfl, rfl, if_neg (by simpa [isOpen] using hopen)⟩)
    · exact .inr (.inr ⟨rfl, rfl, if_pos hopen⟩)

/-- A request is handed over. -/
theorem Sound.accept_request (h : s.Sound) (hreleased : s.released = false)
    (hshut : s.queue.isShutdown = false) (hopen : s.queue.isOpen = true) (r : Request) :
    Sound { s with
      queue := { s.queue with
        isShutdown := decide (r = .shutdown)
        channel := s.queue.channel ++ [.request r s.queue.tickets]
        tickets := s.queue.tickets + 1 }
      marks := s.marks ++ [s.accepted.length] } := by
  have horder : ∀ q : BatchQueue, q = { s.queue with
        isShutdown := decide (r = .shutdown)
        channel := s.queue.channel ++ [.request r s.queue.tickets]
        tickets := s.queue.tickets + 1 } → q.inOrder = s.expected := by
    rintro q rfl
    rw [← h.intact_of_open hopen]
    simp [inOrder, handed, pending, Message.event?]
  have hmark : ∀ {ticket n : Nat}, s.marks[ticket]? = some n →
      (s.marks ++ [s.accepted.length])[ticket]? = some n := by
    intro ticket n hn
    rw [List.getElem?_append_left (List.getElem?_eq_some_iff.mp hn).1, hn]
  refine
    { kept := by rw [horder _ rfl]; rfl
      intact := fun _ => horder _ rfl
      counted := h.counted
      tickets := by simp [h.tickets]
      placed := ?_
      exporting := fun batch next hworker => ?_
      gone := fun hworker => absurd hworker (isOpen_iff.mp hopen)
      closed := h.closed
      answered := fun ticket result hanswer => ?_ }
  · intro before r' ticket after hsplit
    rcases split_append_singleton hsplit with ⟨rfl, hm, -⟩ | ⟨after', rfl, hbefore⟩
    · -- The request itself: nothing is behind it, and all that was accepted is before it.
      obtain ⟨rfl, rfl⟩ := Message.request.inj hm
      refine ⟨⟨s.accepted.length, ?_, by simp⟩, fun hr => ⟨rfl, by simp [hr]⟩⟩
      rw [← h.tickets]
      exact List.getElem?_concat_length
    · obtain ⟨⟨n, hn, hlength⟩, hlast⟩ := h.placed before r' ticket after' hbefore
      refine ⟨⟨n, hmark hn, ?_⟩, fun hr => ?_⟩
      · rw [List.filterMap_append, List.length_append]
        exact hlength
      · exact absurd (hlast hr).2 (by simp [hshut])
  · obtain ⟨hbuffer, hready⟩ := h.exporting batch next hworker
    refine ⟨hbuffer, fun r' ticket hnext => ?_, fun hleaves => ?_⟩
    · obtain ⟨n, hn, hle⟩ := hready.answer r' ticket hnext
      exact ⟨n, hmark hn, hle⟩
    · rcases (hready.leave hleaves).2 with hdown | hdown
      · exact absurd hdown (by simp [hshut])
      · exact absurd hdown (by simp [hreleased])
  · obtain ⟨n, hn, hle⟩ := h.answered ticket result hanswer
    exact ⟨n, hmark hn, hle⟩

theorem Sound.ask (h : s.Sound) (hreleased : s.released = false) (r : Request) :
    Sound (s.ask r) := by
  rcases ask_cases s.queue r with ⟨-, heq⟩ | ⟨hshut, hopen, heq⟩ | ⟨hshut, hopen, heq⟩
  · have hsame : s.ask r = s := by simp [Traffic.ask, heq]
    rwa [hsame]
  · -- There is no worker: the call does no more than to shut the queue down.
    have hgone : s.queue.worker = .gone := by
      by_contra hworker
      exact absurd (isOpen_iff.mpr hworker) (by simp [hopen])
    have hdown : s.ask r =
        { s with queue := { s.queue with isShutdown := decide (r = .shutdown) } } := by
      simp [Traffic.ask, heq]
    rw [hdown]
    exact
      { kept := h.kept
        intact := h.intact
        counted := h.counted
        tickets := h.tickets
        placed := fun before r' ticket after hsplit => by
          simp only [h.gone hgone] at hsplit
          simp at hsplit
        exporting := fun batch next hworker => by
          simp only [hgone] at hworker
          cases hworker
        gone := h.gone
        closed := h.closed
        answered := h.answered }
  · have hacc := h.accept_request hreleased hshut hopen r
    simpa [Traffic.ask, heq] using hacc

/-! ### The worker -/

/-- The worker gives answers and waits for the next message. -/
theorem Sound.resume (h : s.Sound) (hopen : s.queue.isOpen = true)
    {answers : List (Nat × Except QueueError Unit)} (hanswers : s.Answered answers) :
    Sound { s with queue := { s.queue with answers, worker := .waiting } } where
  kept := h.kept
  intact := fun _ => h.intact_of_open hopen
  counted := h.counted
  tickets := h.tickets
  placed := fun before r ticket after hsplit =>
    ⟨(h.placed before r ticket after hsplit).1, (h.placed before r ticket after hsplit).2⟩
  exporting := nofun
  gone := nofun
  closed := fun hclosed => absurd (h.closed hclosed) (isOpen_iff.mp hopen)
  answered := hanswers

/-- The worker gives answers and leaves. The channel is empty, so nothing is lost with it. -/
theorem Sound.leave (h : s.Sound) (hopen : s.queue.isOpen = true) (hchannel : s.queue.channel = [])
    {answers : List (Nat × Except QueueError Unit)} (hanswers : s.Answered answers) :
    Sound { s with queue := { s.queue with answers }.close } := by
  have hsame : ({ s.queue with answers }.close).inOrder = s.expected := by
    rw [← h.intact_of_open hopen]
    simp [inOrder, handed, pending, close, hchannel]
  exact
    { kept := by rw [hsame]; rfl
      intact := fun _ => hsame
      counted := h.counted
      tickets := h.tickets
      placed := by simp [close]
      exporting := nofun
      gone := fun _ => rfl
      closed := fun _ => rfl
      answered := hanswers }

/-- An export has ended, and the worker goes on as it was to. -/
theorem Sound.proceed (h : s.Sound) (hopen : s.queue.isOpen = true) (hbuffer : s.queue.buffer = [])
    (hready : s.Ready next) (result : Except QueueError Unit) :
    Sound { s with queue := s.queue.proceed result next } := by
  have hanswer : ∀ r ticket, next = .answer r ticket →
      s.Answered ((ticket, result) :: s.queue.answers) := by
    intro r ticket hnext t res hmem
    rcases List.mem_cons.mp hmem with heq | hmem
    · obtain ⟨rfl, -⟩ := Prod.mk.inj heq
      obtain ⟨n, hn, hle⟩ := hready.answer r t hnext
      exact ⟨n, hn, by simpa [hbuffer] using hle⟩
    · exact h.answered t res hmem
  cases next with
  | resume => exact h.resume hopen h.answered
  | answer r ticket =>
    cases r with
    | flush => exact h.resume hopen (hanswer .flush ticket rfl)
    | shutdown => exact h.leave hopen (hready.leave rfl).1 (hanswer .shutdown ticket rfl)
  | leave => exact h.leave hopen (hready.leave rfl).1 h.answered

/-- The worker hands the buffer to the exporter. -/
theorem Sound.handOff (h : s.Sound) (hopen : s.queue.isOpen = true) (hready : s.Ready next) :
    Sound { s with queue := s.queue.handOff next } := by
  have horder : (s.queue.handOff next).inOrder = s.expected := by
    rw [← h.intact_of_open hopen]
    rw [inOrder, handed_handOff]
    simp [inOrder, pending, BatchQueue.handOff]
  refine
    { kept := by rw [horder]; rfl
      intact := fun _ => horder
      counted := h.counted
      tickets := h.tickets
      placed := fun before r ticket after hsplit =>
        ⟨(h.placed before r ticket after hsplit).1, (h.placed before r ticket after hsplit).2⟩
      exporting := fun batch next' hworker => ?_
      gone := nofun
      closed := fun hclosed => absurd (h.closed hclosed) (isOpen_iff.mp hopen)
      answered := fun ticket result hanswer => ?_ }
  · obtain ⟨-, rfl⟩ := Worker.exporting.inj hworker
    refine ⟨rfl, fun r ticket hnext => ?_, hready.leave⟩
    obtain ⟨n, hn, hle⟩ := hready.answer r ticket hnext
    refine ⟨n, hn, ?_⟩
    rw [handed_handOff, List.length_append]
    omega
  · obtain ⟨n, hn, hle⟩ := h.answered ticket result hanswer
    refine ⟨n, hn, ?_⟩
    rw [handed_handOff, List.length_append]
    omega

theorem Sound.beginExport (h : s.Sound) (hopen : s.queue.isOpen = true) (hready : s.Ready next) :
    Sound { s with queue := s.queue.beginExport next } := by
  rw [beginExport_eq]
  split
  next hempty => exact h.proceed hopen (List.isEmpty_iff.mp hempty) hready (.ok ())
  next => exact h.handOff hopen hready

/-- The worker takes an event out of the channel into the buffer. -/
theorem Sound.takeEvent (h : s.Sound) (hworker : s.queue.worker = .waiting) {e : Event}
    {flush : Bool} {rest : List Message} (hchannel : s.queue.channel = .event e flush :: rest) :
    Sound { s with queue := { s.queue with
      channel := rest
      buffer := s.queue.buffer ++ [s.queue.chain.process e] } } := by
  have hopen : s.queue.isOpen = true := isOpen_iff.mpr (by simp [hworker])
  have horder : ∀ q : BatchQueue, q = { s.queue with
      channel := rest
      buffer := s.queue.buffer ++ [s.queue.chain.process e] } → q.inOrder = s.expected := by
    rintro q rfl
    rw [← h.intact_of_open hopen]
    simp [inOrder, handed, pending, hchannel, Message.event?]
  refine
    { kept := by rw [horder _ rfl]; rfl
      intact := fun _ => horder _ rfl
      counted := h.counted
      tickets := h.tickets
      placed := fun before r ticket after hsplit => ?_
      exporting := fun batch next hexporting => ?_
      gone := fun hgone => absurd hgone (by simp [hworker])
      closed := h.closed
      answered := h.answered }
  · have hsplit' : s.queue.channel = (.event e flush :: before) ++ .request r ticket :: after := by
      rw [hchannel, show rest = _ from hsplit]
      rfl
    exact ⟨(h.placed _ r ticket after hsplit').1, (h.placed _ r ticket after hsplit').2⟩
  · rw [show s.queue.worker = _ from hexporting] at hworker
    cases hworker

/-- The worker takes a request out of the channel, and what it is to do then is in order. -/
theorem Sound.takeRequest (h : s.Sound) (hworker : s.queue.worker = .waiting) {r : Request}
    {ticket : Nat} {rest : List Message} (hchannel : s.queue.channel = .request r ticket :: rest) :
    Sound { s with queue := { s.queue with channel := rest } } ∧
      Ready { s with queue := { s.queue with channel := rest } } (.answer r ticket) := by
  have hopen : s.queue.isOpen = true := isOpen_iff.mpr (by simp [hworker])
  have horder : ∀ q : BatchQueue, q = { s.queue with channel := rest } →
      q.inOrder = s.expected := by
    rintro q rfl
    rw [← h.intact_of_open hopen]
    simp [inOrder, handed, pending, hchannel, Message.event?, List.filterMap_cons]
  obtain ⟨⟨n, hn, hlength⟩, hlast⟩ := h.placed [] r ticket rest hchannel
  have hsound : Sound { s with queue := { s.queue with channel := rest } } := by
    refine
      { kept := by rw [horder _ rfl]; rfl
        intact := fun _ => horder _ rfl
        counted := h.counted
        tickets := h.tickets
        placed := fun before r' ticket' after hsplit => ?_
        exporting := fun batch next hexporting => ?_
        gone := fun hgone => absurd hgone (by simp [hworker])
        closed := h.closed
        answered := h.answered }
    · have hsplit' : s.queue.channel =
          (.request r ticket :: before) ++ .request r' ticket' :: after := by
        rw [hchannel, show rest = _ from hsplit]
        rfl
      exact ⟨(h.placed _ r' ticket' after hsplit').1, (h.placed _ r' ticket' after hsplit').2⟩
    · rw [show s.queue.worker = _ from hexporting] at hworker
      cases hworker
  refine ⟨hsound, fun r' ticket' hnext => ?_, fun hleaves => ?_⟩
  · -- All that was accepted before the request has left the channel.
    obtain ⟨rfl, rfl⟩ := AfterExport.answer.inj hnext
    refine ⟨n, hn, ?_⟩
    have hcount := congrArg List.length (horder _ rfl)
    simp only [inOrder, pending, handed, expected, List.length_append, List.length_map] at hcount
    simp only [handed]
    omega
  · cases r with
    | flush => cases hleaves
    | shutdown =>
      obtain ⟨rfl, hdown⟩ := hlast rfl
      exact ⟨rfl, .inl hdown⟩

theorem Sound.receive (h : s.Sound) (due : Bool) :
    Sound { s with queue := s.queue.receive due } := by
  unfold BatchQueue.receive
  split
  next e flush rest hworker hchannel =>
    have htaken := h.takeEvent hworker hchannel
    have hopen : s.queue.isOpen = true := isOpen_iff.mpr (by simp [hworker])
    simp only
    split
    next => exact htaken.beginExport hopen ⟨nofun, nofun⟩
    next => exact htaken
  next r ticket rest hworker hchannel =>
    obtain ⟨htaken, hready⟩ := h.takeRequest hworker hchannel
    have hopen : s.queue.isOpen = true := isOpen_iff.mpr (by simp [hworker])
    exact htaken.beginExport hopen hready
  next => exact h

theorem Sound.expire (h : s.Sound) : Sound { s with queue := s.queue.expire } := by
  unfold BatchQueue.expire
  split
  next hworker hchannel =>
    exact h.beginExport (isOpen_iff.mpr (by simp [hworker])) ⟨nofun, nofun⟩
  next => exact h

theorem Sound.disconnect (h : s.Sound) (hreleased : s.released = true) :
    Sound { s with queue := s.queue.disconnect } := by
  unfold BatchQueue.disconnect
  split
  next hworker hchannel =>
    exact h.beginExport (isOpen_iff.mpr (by simp [hworker]))
      ⟨nofun, fun _ => ⟨hchannel, .inr hreleased⟩⟩
  next => exact h

/-- The worker does not survive the export: what the channel held is lost. -/
theorem Sound.crash (h : s.Sound) (hopen : s.queue.isOpen = true) :
    Sound { s with queue := { s.queue with worker := .gone, channel := [] } } where
  kept := by
    refine List.IsPrefix.trans ?_ h.kept
    simp [inOrder, handed, pending]
  intact := fun hcrashed => by
    have hclosed : s.queue.exporter.closed = true := by simpa [hasCrashed, isOpen] using hcrashed
    exact absurd (h.closed hclosed) (isOpen_iff.mp hopen)
  counted := h.counted
  tickets := h.tickets
  placed := by simp
  exporting := nofun
  gone := fun _ => rfl
  closed := fun _ => rfl
  answered := h.answered

theorem Sound.complete (h : s.Sound) (result : ExportResult) :
    Sound { s with queue := s.queue.complete result } := by
  unfold BatchQueue.complete
  split
  next batch next hworker =>
    have hopen : s.queue.isOpen = true := isOpen_iff.mpr (by simp [hworker])
    obtain ⟨hbuffer, hready⟩ := h.exporting batch next hworker
    cases result with
    | delivered =>
      have hdelivered := h.exporter_congr
        { s.queue.exporter with delivered := s.queue.exporter.delivered ++ batch.toArray } rfl rfl
      exact hdelivered.proceed hopen hbuffer ⟨hready.answer, hready.leave⟩ _
    | failed text => exact h.proceed hopen hbuffer hready _
    | crashed => exact h.crash hopen
  next => exact h

/-! ### Steps and runs -/

theorem Sound.step (h : s.Sound) (a : Action) : (s.step a).Sound := by
  cases a with
  | queue e flush =>
    cases hreleased : s.released
    · simpa [Traffic.step, hreleased] using h.handOver hreleased e flush
    · simpa [Traffic.step, hreleased] using h
  | ask r =>
    cases hreleased : s.released
    · simpa [Traffic.step, hreleased] using h.ask hreleased r
    · simpa [Traffic.step, hreleased] using h
  | release => exact h.release
  | receive due => exact h.receive due
  | expire => exact h.expire
  | disconnect =>
    cases hreleased : s.released
    · simpa [Traffic.step, hreleased] using h
    · simpa [Traffic.step, hreleased] using h.disconnect hreleased
  | complete result => exact h.complete result

end Traffic

end BatchQueue

end Telemetry
