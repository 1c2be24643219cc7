import Telemetry.Proofs.Queue.Traffic

/-!
# A batch queue loses, repeats and reorders nothing

The invariant holds after every run, and what a run says about one of its earlier points is
monotone: the events accepted by then stay accepted, a mark stays, a queue that is shut down stays
so. How exports end matters for the answers and for what the exporter has kept; the course of the
queue, which is all the rest, does not depend on it.

A call that waits for its answer is a request after which the worker runs. It may come back before
the worker has answered it, and then says so. If it comes back with the worker's answer, the
exporter was handed all that had been accepted.

## Main definitions

* `BatchQueue.Traffic.run`: a queue after some actions.
* `BatchQueue.course`: a queue without what depends on how exports end.
* `BatchQueue.Action.Alike`: actions that are the same but for how an export ends.

## Main results

* `BatchQueue.Traffic.run_delivers`: what becomes of the events, whatever clients, worker and
  exporter do.
-/

namespace Telemetry

namespace BatchQueue

/-! ### The worker leaves alone what clients read and write -/

/-- What the worker neither reads nor writes. -/
def door (q : BatchQueue) : BatchConfig × ProcessorChain × Bool × Nat × Nat :=
  (q.config, q.chain, q.isShutdown, q.dropped, q.tickets)

@[simp]
theorem door_proceed (q : BatchQueue) (result : Except QueueError Unit) (next : AfterExport) :
    (q.proceed result next).door = q.door := by
  rcases next with _ | ⟨_ | _, ticket⟩ | _ <;> rfl

@[simp]
theorem door_beginExport (q : BatchQueue) (next : AfterExport) :
    (q.beginExport next).door = q.door := by
  rw [beginExport_eq]
  split
  · exact door_proceed q _ next
  · rfl

@[simp]
theorem door_receive (q : BatchQueue) (due : Bool) : (q.receive due).door = q.door := by
  unfold receive
  split
  · dsimp only
    split
    · exact door_beginExport _ _
    · rfl
  · exact door_beginExport _ _
  · rfl

@[simp]
theorem door_expire (q : BatchQueue) : q.expire.door = q.door := by
  unfold expire
  split
  · exact door_beginExport _ _
  · rfl

@[simp]
theorem door_disconnect (q : BatchQueue) : q.disconnect.door = q.door := by
  unfold disconnect
  split
  · exact door_beginExport _ _
  · rfl

@[simp]
theorem door_complete (q : BatchQueue) (result : ExportResult) :
    (q.complete result).door = q.door := by
  unfold complete
  split
  · cases result
    · exact door_proceed _ _ _
    · exact door_proceed _ _ _
    · rfl
  · rfl

@[simp]
theorem door_answerNext (q : BatchQueue) : q.answerNext.door = q.door := door_complete _ _

@[simp]
theorem door_settleFor (n : Nat) (q : BatchQueue) : (settleFor n q).door = q.door := by
  induction n generalizing q with
  | zero => rfl
  | succ n ih =>
    unfold settleFor
    split
    · rfl
    · split
      · rfl
      · rw [ih, door_answerNext]
    · split
      · rfl
      · rw [ih, door_receive]

@[simp]
theorem door_settle (q : BatchQueue) : q.settle.door = q.door := door_settleFor _ q

/-! ### How exports end -/

/-- The same but for how an export ends, if the worker survives it. -/
inductive Action.Alike : Action → Action → Prop
  | refl (a : Action) : Alike a a
  | complete {r r' : ExportResult} (h : r ≠ .crashed) (h' : r' ≠ .crashed) :
    Alike (.complete r) (.complete r')

/-- The queue without what depends on how exports end: what the exporter has kept, and what the
answers say. -/
def course (q : BatchQueue) : BatchQueue :=
  { q with
    exporter := { q.exporter with delivered := #[] }
    answers := q.answers.map fun answer => (answer.1, .ok ()) }

variable (q : BatchQueue)

theorem course_queue (e : Event) (flush : Bool) :
    (q.queue e flush).1.course = (q.course.queue e flush).1 := by
  simp only [queue, apply_ite Prod.fst, apply_ite course]
  rfl

theorem course_ask (r : Request) : (q.ask r).course = q.course.ask r := by
  cases r <;> simp only [ask, apply_ite course] <;> rfl

theorem course_proceed (result : Except QueueError Unit) (next : AfterExport) :
    (q.proceed result next).course = q.course.proceed (.ok ()) next := by
  rcases next with _ | ⟨_ | _, ticket⟩ | _ <;> rfl

theorem course_beginExport (next : AfterExport) :
    (q.beginExport next).course = q.course.beginExport next := by
  rw [beginExport_eq, apply_ite course, course_proceed]
  rfl

theorem course_receive (due : Bool) : (q.receive due).course = q.course.receive due := by
  have hworker : q.course.worker = q.worker := rfl
  have hchannel : q.course.channel = q.channel := rfl
  unfold receive
  rw [hworker, hchannel]
  split
  · simp only [apply_ite course, course_beginExport]
    rfl
  · exact course_beginExport _ _
  · rfl

theorem course_expire : q.expire.course = q.course.expire := by
  have hworker : q.course.worker = q.worker := rfl
  have hchannel : q.course.channel = q.channel := rfl
  unfold expire
  rw [hworker, hchannel]
  split
  · exact course_beginExport _ _
  · rfl

theorem course_disconnect : q.disconnect.course = q.course.disconnect := by
  have hworker : q.course.worker = q.worker := rfl
  have hchannel : q.course.channel = q.channel := rfl
  unfold disconnect
  rw [hworker, hchannel]
  split
  · exact course_beginExport _ _
  · rfl

theorem course_crash : (q.complete .crashed).course = q.course.complete .crashed := by
  have hworker : q.course.worker = q.worker := rfl
  unfold complete
  rw [hworker]
  split <;> rfl

/-- After an export that the worker survives it goes on as it was to, however the export ended. -/
theorem course_complete {batch : List Event} {next : AfterExport}
    (hworker : q.worker = .exporting batch next) {r : ExportResult} (h : r ≠ .crashed) :
    (q.complete r).course = q.course.proceed (.ok ()) next := by
  unfold complete
  rw [hworker]
  cases r with
  | delivered => exact course_proceed _ _ _
  | failed text => exact course_proceed _ _ _
  | crashed => exact absurd rfl h

theorem complete_of_not_exporting (hworker : ∀ batch next, q.worker ≠ .exporting batch next)
    (r : ExportResult) : q.complete r = q := by
  unfold complete
  split
  next batch next heq => exact absurd heq (hworker batch next)
  next => rfl

/-! ### The worker survives -/

theorem hasCrashed_proceed (result : Except QueueError Unit) (next : AfterExport) :
    (q.proceed result next).hasCrashed = false := by
  rcases next with _ | ⟨_ | _, ticket⟩ | _ <;> rfl

theorem hasCrashed_beginExport (next : AfterExport) :
    (q.beginExport next).hasCrashed = false := by
  rw [beginExport_eq, apply_ite hasCrashed, hasCrashed_proceed]
  exact ite_self _

variable {q}

theorem hasCrashed_queue (e : Event) (flush : Bool) :
    (q.queue e flush).1.hasCrashed = q.hasCrashed := by
  rcases Traffic.queue_cases q e flush with ⟨-, h⟩ | ⟨-, -, h⟩ | ⟨-, h⟩ <;> rw [h] <;> rfl

theorem hasCrashed_ask (r : Request) : (q.ask r).hasCrashed = q.hasCrashed := by
  rcases Traffic.ask_cases q r with ⟨-, h⟩ | ⟨-, -, h⟩ | ⟨-, -, h⟩ <;> rw [h] <;> rfl

theorem hasCrashed_receive (h : q.hasCrashed = false) (due : Bool) :
    (q.receive due).hasCrashed = false := by
  unfold receive
  split
  · rw [apply_ite hasCrashed, hasCrashed_beginExport]
    exact ite_eq_left_iff.mpr fun _ => h
  · exact hasCrashed_beginExport _ _
  · exact h

theorem hasCrashed_expire (h : q.hasCrashed = false) : q.expire.hasCrashed = false := by
  unfold expire
  split
  · exact hasCrashed_beginExport _ _
  · exact h

theorem hasCrashed_disconnect (h : q.hasCrashed = false) : q.disconnect.hasCrashed = false := by
  unfold disconnect
  split
  · exact hasCrashed_beginExport _ _
  · exact h

theorem hasCrashed_complete (h : q.hasCrashed = false) {r : ExportResult} (hr : r ≠ .crashed) :
    (q.complete r).hasCrashed = false := by
  unfold complete
  split
  · cases r with
    | delivered => exact hasCrashed_proceed _ _ _
    | failed text => exact hasCrashed_proceed _ _ _
    | crashed => exact absurd rfl hr
  · exact h

/-! ### Answers -/

/-- The answer of a call that waits is the worker's own. -/
def isOwn : Except QueueError Unit → Bool
  | .ok () | .error (.exportFailed _) => true
  | _ => false

theorem await_own {q : BatchQueue} {r : Request} (hown : isOwn (q.await r).2 = true) :
    q.isOpen = true ∧ (q.await r).1 = (q.request r).settle ∧
      (q.tickets, (q.await r).2) ∈ (q.request r).settle.answers := by
  unfold await at hown ⊢
  split at hown
  next hopen =>
    rw [if_pos hopen]
    dsimp only at hown ⊢
    split at hown
    next result hlookup =>
      obtain ⟨before, after, heq, -⟩ := List.lookup_eq_some_iff.mp hlookup
      exact ⟨hopen, rfl, by simp [heq]⟩
    next => split at hown <;> cases hown
  next => cases hown

namespace Traffic

variable {s s' : Traffic}

theorem hasCrashed_step (h : s.queue.hasCrashed = false) {a : Action}
    (ha : a ≠ .complete .crashed) : (s.step a).queue.hasCrashed = false := by
  cases a with
  | queue e flush =>
    cases hreleased : s.released
    · simpa [step, hreleased, handOver, hasCrashed_queue] using h
    · simpa [step, hreleased] using h
  | ask r =>
    cases hreleased : s.released
    · simpa [step, hreleased, ask, hasCrashed_ask] using h
    · simpa [step, hreleased] using h
  | release => exact h
  | receive due => exact hasCrashed_receive h due
  | expire => exact hasCrashed_expire h
  | disconnect =>
    cases hreleased : s.released
    · simpa [step, hreleased] using h
    · simpa [step, hreleased] using hasCrashed_disconnect h
  | complete r => exact hasCrashed_complete h fun hr => ha (by rw [hr])

/-! ### Runs -/

/-- A queue before anything has happened. -/
def start (config : BatchConfig) (chain : ProcessorChain) : Traffic where
  queue := { config, chain, exporter := {} }

/-- The traffic after some actions. -/
def run (s : Traffic) (actions : List Action) : Traffic := actions.foldl step s

theorem run_append (s : Traffic) (before after : List Action) :
    s.run (before ++ after) = (s.run before).run after := List.foldl_append

theorem Sound.run (h : s.Sound) (actions : List Action) : (s.run actions).Sound := by
  induction actions generalizing s with
  | nil => exact h
  | cons a rest ih => exact ih (h.step a)

theorem hasCrashed_run (h : s.queue.hasCrashed = false) {actions : List Action}
    (hactions : .complete .crashed ∉ actions) : (s.run actions).queue.hasCrashed = false := by
  induction actions generalizing s with
  | nil => exact h
  | cons a rest ih =>
    exact ih (hasCrashed_step h (List.ne_of_not_mem_cons hactions).symm)
      (List.not_mem_of_not_mem_cons hactions)

/-- What stays as it is, or only grows. -/
structure Later (s s' : Traffic) : Prop where
  chain : s'.queue.chain = s.queue.chain
  accepted : s.accepted <+: s'.accepted
  marks : s.marks <+: s'.marks
  isShutdown : s.queue.isShutdown = true → s'.queue.isShutdown = true
  released : s.released = true → s'.released = true

theorem Later.refl (s : Traffic) : Later s s :=
  ⟨rfl, List.prefix_rfl, List.prefix_rfl, id, id⟩

theorem Later.trans {s'' : Traffic} (h : Later s s') (h' : Later s' s'') : Later s s'' :=
  ⟨h'.chain.trans h.chain, h.accepted.trans h'.accepted, h.marks.trans h'.marks,
    h'.isShutdown ∘ h.isShutdown, h'.released ∘ h.released⟩

theorem Later.of_door {q : BatchQueue} (h : q.door = s.queue.door) :
    Later s { s with queue := q } := by
  simp only [door, Prod.mk.injEq] at h
  exact ⟨h.2.1, List.prefix_rfl, List.prefix_rfl, fun hdown => h.2.2.1.trans hdown, id⟩

theorem later_handOver (s : Traffic) (e : Event) (flush : Bool) : Later s (s.handOver e flush) := by
  have haccepted : s.accepted <+: (s.handOver e flush).accepted := by
    simp only [handOver]
    split_ifs
    · exact List.prefix_append _ _
    · exact List.prefix_rfl
  rcases queue_cases s.queue e flush with ⟨-, h⟩ | ⟨-, -, h⟩ | ⟨-, h⟩ <;>
    exact ⟨by simp [handOver, h], haccepted, List.prefix_rfl,
      fun hdown => by simp [handOver, h, hdown], id⟩

theorem later_ask (s : Traffic) (r : Request) : Later s (s.ask r) := by
  have hmarks : s.marks <+: (s.ask r).marks := by
    simp only [ask]
    split_ifs
    · exact List.prefix_append _ _
    · exact List.prefix_rfl
  rcases ask_cases s.queue r with ⟨-, h⟩ | ⟨hshut, -, h⟩ | ⟨hshut, -, h⟩
  · exact ⟨by simp [ask, h], List.prefix_rfl, hmarks, fun hdown => by simp [ask, h, hdown], id⟩
  · exact ⟨by simp [ask, h], List.prefix_rfl, hmarks, fun hdown => by simp [hshut] at hdown, id⟩
  · exact ⟨by simp [ask, h], List.prefix_rfl, hmarks, fun hdown => by simp [hshut] at hdown, id⟩

theorem later_step (s : Traffic) (a : Action) : Later s (s.step a) := by
  cases a with
  | queue e flush =>
    simp only [step]
    split_ifs
    · exact .refl s
    · exact later_handOver s e flush
  | ask r =>
    simp only [step]
    split_ifs
    · exact .refl s
    · exact later_ask s r
  | release => exact ⟨rfl, List.prefix_rfl, List.prefix_rfl, id, fun _ => rfl⟩
  | receive due => exact .of_door (door_receive _ due)
  | expire => exact .of_door (door_expire _)
  | disconnect =>
    simp only [step]
    split_ifs
    · exact .of_door (door_disconnect _)
    · exact .refl s
  | complete r => exact .of_door (door_complete _ r)

theorem later_run (s : Traffic) (actions : List Action) : Later s (s.run actions) := by
  induction actions generalizing s with
  | nil => exact .refl s
  | cons a rest ih => exact (later_step s a).trans (ih _)

theorem isShutdown_ask_shutdown (q : BatchQueue) : (q.ask .shutdown).isShutdown = true := by
  rcases ask_cases q .shutdown with ⟨hshut, h⟩ | ⟨-, -, h⟩ | ⟨-, -, h⟩ <;> rw [h]
  · exact hshut
  · rfl
  · rfl

/-- A queue that a client has shut down stays shut down. -/
theorem isShutdown_run_of_mem {actions : List Action} (hmem : .ask .shutdown ∈ actions)
    (hreleased : (s.run actions).released = false) :
    (s.run actions).queue.isShutdown = true := by
  obtain ⟨before, after, rfl⟩ := List.append_of_mem hmem
  rw [run_append] at hreleased ⊢
  have hlater := later_run ((s.run before).step (.ask .shutdown)) after
  have hbefore : (s.run before).released = false := by
    by_contra htrue
    have hend := ((later_step _ _).trans hlater).released (eq_true_of_ne_false htrue)
    exact absurd hreleased (by simpa [run] using hend)
  refine hlater.isShutdown ?_
  simp only [step, hbefore]
  exact isShutdown_ask_shutdown _

/-! ### Runs that differ in how exports end -/

/-- The traffic without what depends on how exports end. -/
def course (s : Traffic) : Traffic := { s with queue := s.queue.course }

theorem course_handOver (s : Traffic) (e : Event) (flush : Bool) :
    (s.handOver e flush).course = s.course.handOver e flush := by
  simp only [course, handOver, ← course_queue]
  rfl

theorem course_ask (s : Traffic) (r : Request) : (s.ask r).course = s.course.ask r := by
  simp only [course, ask, ← BatchQueue.course_ask]
  rfl

theorem course_complete_congr {q q' : BatchQueue} (h : q.course = q'.course) {r r' : ExportResult}
    (hr : r ≠ .crashed) (hr' : r' ≠ .crashed) :
    (q.complete r).course = (q'.complete r').course := by
  have hworker : q'.worker = q.worker := (congrArg BatchQueue.worker h).symm
  by_cases hexporting : ∃ batch next, q.worker = .exporting batch next
  · obtain ⟨batch, next, hq⟩ := hexporting
    rw [course_complete q hq hr, course_complete q' (hworker.trans hq) hr', h]
  · push Not at hexporting
    rw [complete_of_not_exporting q hexporting,
      complete_of_not_exporting q' (by rwa [hworker]), h]

theorem course_step (s : Traffic) {a : Action} (ha : ∀ r, a = .complete r → r = .crashed) :
    (s.step a).course = s.course.step a := by
  cases a with
  | queue e flush =>
    simp only [step, apply_ite course, course_handOver]
    rfl
  | ask r =>
    simp only [step, apply_ite course, course_ask]
    rfl
  | release => rfl
  | receive due => simp only [step, course, course_receive]
  | expire => simp only [step, course, course_expire]
  | disconnect =>
    have hdisconnect : ({ s with queue := s.queue.disconnect } : Traffic).course =
        { s.course with queue := s.course.queue.disconnect } := by
      simp only [course, course_disconnect]
    simp only [step, apply_ite course, hdisconnect]
    rfl
  | complete r =>
    obtain rfl := ha r rfl
    simp only [step, course, course_crash]

theorem course_step_alike (h : s.course = s'.course) {a a' : Action} (ha : a.Alike a') :
    (s.step a).course = (s'.step a').course := by
  have hcomplete : ∀ {r r' : ExportResult}, r ≠ .crashed → r' ≠ .crashed →
      (s.step (.complete r)).course = (s'.step (.complete r')).course := by
    intro r r' hr hr'
    have hqueue : s.queue.course = s'.queue.course := congrArg Traffic.queue h
    have hrest : { s with queue := (s.queue.complete r).course } =
        { s' with queue := (s.queue.complete r).course } :=
      congrArg (fun t : Traffic => { t with queue := (s.queue.complete r).course }) h
    rw [course_complete_congr hqueue hr hr'] at hrest
    simpa only [step, course, course_complete_congr hqueue hr hr'] using hrest
  cases ha with
  | refl =>
    by_cases hsurvives : ∃ r, a = .complete r ∧ r ≠ .crashed
    · obtain ⟨r, rfl, hr⟩ := hsurvives
      exact hcomplete hr hr
    · push Not at hsurvives
      rw [course_step s hsurvives, course_step s' hsurvives, h]
  | complete hr hr' => exact hcomplete hr hr'

theorem course_run (h : s.course = s'.course) {actions actions' : List Action}
    (hactions : List.Forall₂ Action.Alike actions actions') :
    (s.run actions).course = (s'.run actions').course := by
  induction hactions generalizing s s' with
  | nil => exact h
  | cons ha _ ih => exact ih (course_step_alike h ha)

/-! ### Calls that wait -/

theorem Sound.answerNext (h : s.Sound) : Sound { s with queue := s.queue.answerNext } :=
  (h.exporter_congr { s.queue.exporter with answers := s.queue.exporter.answers.drop 1 }
    rfl rfl).complete _

theorem Sound.settleFor (h : s.Sound) (n : Nat) :
    Sound { s with queue := settleFor n s.queue } := by
  induction n generalizing s with
  | zero => exact h
  | succ n ih =>
    unfold BatchQueue.settleFor
    split
    · exact h
    · split
      · exact h
      · exact ih h.answerNext
    · split
      · exact h
      · exact ih (h.receive _)

theorem Sound.settle (h : s.Sound) : Sound { s with queue := s.queue.settle } := h.settleFor _

/-- A request that was handed over is answered at some later time: all that had been accepted before
it has been handed to the exporter. -/
theorem Sound.expected_prefix_handed (h : s.Sound) (h' : s'.Sound) {r : Request}
    (hshut : s.queue.isShutdown = false) (hopen : s.queue.isOpen = true)
    (hlater : Later (s.ask r) s') {result : Except QueueError Unit}
    (hanswer : (s.queue.tickets, result) ∈ s'.queue.answers) : s.expected <+: s'.queue.handed := by
  have hmarks : (s.ask r).marks = s.marks ++ [s.accepted.length] := by
    rcases ask_cases s.queue r with ⟨hdown, -⟩ | ⟨-, hgone, -⟩ | ⟨-, -, heq⟩
    · simp [hshut] at hdown
    · simp [hopen] at hgone
    · simp [Traffic.ask, heq]
  have hmark : s'.marks[s.queue.tickets]? = some s.accepted.length := by
    obtain ⟨more, hmore⟩ := hlater.marks
    rw [hmarks] at hmore
    simp [← hmore, ← h.tickets]
  obtain ⟨n, hn, hle⟩ := h'.answered _ _ hanswer
  obtain rfl := Option.some.inj (hmark.symm.trans hn)
  have hexpected : s.expected <+: s'.expected := by
    have hchain := ((later_ask s r).trans hlater).chain
    rw [expected, expected, hchain]
    exact ((later_ask s r).trans hlater).accepted.map _
  have hhanded : s'.queue.handed <+: s'.expected :=
    List.IsPrefix.trans (by rw [inOrder, List.append_assoc]; exact List.prefix_append _ _) h'.kept
  refine List.prefix_of_prefix_length_le hexpected hhanded ?_
  rw [expected, List.length_map]
  exact hle

/-- The same for a request after which only the worker runs: nothing else was accepted meanwhile. -/
theorem Sound.handed_settle_ask (h : s.Sound) (hreleased : s.released = false)
    (hshut : s.queue.isShutdown = false) (hopen : s.queue.isOpen = true) {r : Request}
    {result : Except QueueError Unit}
    (hanswer : (s.queue.tickets, result) ∈ (s.queue.ask r).settle.answers) :
    (s.queue.ask r).settle.handed = s.expected := by
  have hsettled := (h.ask hreleased r).settle
  have hlater : Later (s.ask r) { s.ask r with queue := (s.ask r).queue.settle } :=
    .of_door (door_settle _)
  have hinitial := h.expected_prefix_handed hsettled hshut hopen hlater hanswer
  refine (hinitial.eq_of_length_le ?_).symm
  have hlength := hsettled.kept.length_le
  simp only [inOrder, expected, List.length_append, List.length_map] at hlength ⊢
  have haccepted : (s.ask r).accepted = s.accepted := rfl
  rw [haccepted] at hlength
  exact le_trans (by omega) hlength

theorem Sound.handed_of_forceFlush (h : s.Sound) (hreleased : s.released = false)
    (hown : isOwn s.queue.forceFlush.2 = true) : s.queue.forceFlush.1.handed = s.expected := by
  unfold BatchQueue.forceFlush at hown ⊢
  split at hown
  next => cases hown
  next hshut =>
    obtain ⟨hopen, heq, hanswer⟩ := await_own hown
    have hask : s.queue.ask .flush = s.queue.request .flush := by
      simp [BatchQueue.ask, hshut, hopen]
    rw [if_neg hshut, heq, ← hask]
    exact h.handed_settle_ask hreleased (eq_false_of_ne_true hshut) hopen
      (by rw [hask]; exact hanswer)

theorem Sound.handed_of_shutdown (h : s.Sound) (hreleased : s.released = false)
    (hown : isOwn s.queue.shutdown.2.1 = true) : s.queue.shutdown.1.handed = s.expected := by
  unfold BatchQueue.shutdown at hown ⊢
  split at hown
  next => cases hown
  next hshut =>
    obtain ⟨hopen, heq, hanswer⟩ := await_own hown
    have hask : s.queue.ask .shutdown = { s.queue with isShutdown := true }.request .shutdown := by
      simp [BatchQueue.ask, hshut, show BatchQueue.isOpen _ = true from hopen]
    rw [if_neg hshut]
    dsimp only
    rw [heq, ← hask]
    exact h.handed_settle_ask hreleased (eq_false_of_ne_true hshut) hopen
      (by rw [hask]; exact hanswer)

/-! ### The law -/

/-- **Nothing that a batch queue accepts is lost, repeated or reordered**, whatever clients, worker
and exporter do, and in whatever order. An exporter that does not come back takes the worker, and
what the channel holds, with it. -/
theorem run_delivers (config : BatchConfig) (chain : ProcessorChain) (actions : List Action) :
    let s := (start config chain).run actions
    -- What was accepted is there, in order, each event redacted once.
    (.complete .crashed ∉ actions → s.queue.inOrder = s.accepted.map chain.process) ∧
    s.queue.inOrder <+: s.accepted.map chain.process ∧
    -- An event that is handed over is accepted, or dropped and counted.
    (s.released = false → s.queue.isShutdown = false → ∀ e flush,
      let s' := s.step (.queue e flush)
      (s'.accepted = s.accepted ++ [e] ∧ s'.queue.dropped = s.queue.dropped) ∨
      (s'.accepted = s.accepted ∧ s'.queue.dropped = s.queue.dropped + 1)) ∧
    s.offered = s.accepted.length + s.queue.dropped ∧
    -- Once the queue is shut down, no call changes anything.
    (.ask .shutdown ∈ actions → s.released = false → s.queue.isShutdown = true) ∧
    (s.queue.isShutdown = true → (∀ e flush, s.step (.queue e flush) = s) ∧
      (∀ r, s.step (.ask r) = s) ∧ s.queue.forceFlush = (s.queue, .error .alreadyShutdown) ∧
      s.queue.shutdown = (s.queue, .error .alreadyShutdown, [])) ∧
    -- A failed export is not made again, and changes no other.
    (∀ actions', List.Forall₂ Action.Alike actions actions' →
      let s' := (start config chain).run actions'
      s'.accepted = s.accepted ∧ s'.queue.exporter.batches = s.queue.exporter.batches ∧
        s'.queue.buffer = s.queue.buffer ∧ s'.queue.channel = s.queue.channel ∧
        s'.queue.dropped = s.queue.dropped) ∧
    -- A request that the worker has answered: all that was accepted before has been handed over.
    (∀ before r after, actions = before ++ .ask r :: after →
      let asked := (start config chain).run before
      asked.released = false → asked.queue.isShutdown = false → asked.queue.isOpen = true →
      ∀ result, (asked.queue.tickets, result) ∈ s.queue.answers →
        asked.accepted.map chain.process <+: s.queue.handed) ∧
    -- The same for the calls that wait, whatever the exporter is going to answer.
    (s.released = false → ∀ answers held,
      let q := { s.queue with exporter := { s.queue.exporter with answers, held } }
      (isOwn q.forceFlush.2 = true → q.forceFlush.1.handed = s.accepted.map chain.process) ∧
      (isOwn q.shutdown.2.1 = true → q.shutdown.1.handed = s.accepted.map chain.process)) := by
  intro s
  have hstart : (start config chain).Sound := sound_new config chain
  have hsound : s.Sound := hstart.run actions
  have hchain : s.queue.chain = chain := (later_run (start config chain) actions).chain
  have hexpected : s.expected = s.accepted.map chain.process := by rw [expected, hchain]
  refine ⟨fun hactions => ?_, ?_, fun hreleased hshut e flush => ?_, hsound.counted,
    fun hmem hreleased => isShutdown_run_of_mem hmem hreleased, fun hdown => ⟨fun e flush => ?_,
      fun r => ?_, if_pos hdown, if_pos hdown⟩, fun actions' halike => ?_,
    fun before r after hactions hreleased hshut hopen result hanswer => ?_,
    fun hreleased answers held => ?_⟩
  · rw [← hexpected]
    exact hsound.intact (hasCrashed_run rfl hactions)
  · rw [← hexpected]
    exact hsound.kept
  · rcases queue_cases s.queue e flush with ⟨hdown, -⟩ | ⟨-, -, heq⟩ | ⟨-, heq⟩
    · simp [hshut] at hdown
    · exact .inl (by simp [step, hreleased, handOver, heq])
    · exact .inr (by simp [step, hreleased, handOver, heq])
  · have hqueue : (s.queue.queue e flush).1 = s.queue := by simp [BatchQueue.queue, hdown]
    simp only [step, handOver, hqueue, lt_irrefl, if_false, if_pos hdown, ite_self]
  · have hask : s.queue.ask r = s.queue := if_pos hdown
    simp only [step, ask, hask, lt_irrefl, if_false, ite_self]
  · have hcourse : s.course = ((start config chain).run actions').course := course_run rfl halike
    have hqueue := congrArg Traffic.queue hcourse
    exact ⟨(congrArg Traffic.accepted hcourse).symm,
      (congrArg (fun q : BatchQueue => q.exporter.batches) hqueue).symm,
      (congrArg BatchQueue.buffer hqueue).symm, (congrArg BatchQueue.channel hqueue).symm,
      (congrArg BatchQueue.dropped hqueue).symm⟩
  · have hbefore : ((start config chain).run before).Sound := hstart.run before
    have hlater : Later (((start config chain).run before).ask r) s := by
      have hstep : ((start config chain).run before).step (.ask r) =
          ((start config chain).run before).ask r := by simp [step, hreleased]
      have hrun : s = ((((start config chain).run before).step (.ask r)).run after) := by
        show (start config chain).run actions = _
        rw [hactions, run_append]
        rfl
      rw [hrun, hstep]
      exact later_run _ after
    have hinitial := hbefore.expected_prefix_handed hsound hshut hopen hlater hanswer
    rwa [expected, (later_run (start config chain) before).chain] at hinitial
  · have hexporter := hsound.exporter_congr { s.queue.exporter with answers, held } rfl rfl
    rw [← hexpected]
    exact ⟨hexporter.handed_of_forceFlush hreleased, hexporter.handed_of_shutdown hreleased⟩

/-- Three events meet a queue with room for two, and the first export fails: the third event is
dropped, the fourth is exported, and the flush is answered. -/
theorem run_delivers_failedExport :
    let config : BatchConfig := ⟨2, .ofMillis 1000, 2, .ofMillis 10⟩
    let e : Event := .span default
    let before : List Action :=
      [.queue e false, .queue e false, .queue e false, .receive false, .receive false,
        .queue e false, .complete (.failed "refused")]
    let after : List Action := [.receive false, .receive false, .complete .delivered]
    let asked := (start config .empty).run before
    let s := (start config .empty).run (before ++ .ask .flush :: after)
    s.queue.exporter.batches.toList.map List.length = [2, 1] ∧ s.queue.dropped = 1 ∧
      asked.accepted.length = 3 ∧ s.queue.answers.map Prod.fst = [0] ∧
      s.queue.inOrder = s.accepted.map ProcessorChain.empty.process ∧
      asked.accepted.map ProcessorChain.empty.process <+: s.queue.handed := by
  intro config e before after asked s
  have hlaw := run_delivers config .empty (before ++ .ask .flush :: after)
  have htickets : s.queue.answers.map Prod.fst = [asked.queue.tickets] := by decide +kernel
  obtain ⟨result, hanswer⟩ : ∃ result, (asked.queue.tickets, result) ∈ s.queue.answers := by
    have hmem : asked.queue.tickets ∈ s.queue.answers.map Prod.fst := by
      rw [htickets]
      exact List.mem_singleton_self _
    simpa using hmem
  have hhanded := hlaw.2.2.2.2.2.2.2.1 before .flush after rfl (by decide +kernel)
    (by decide +kernel) (by decide +kernel) result hanswer
  exact ⟨by decide +kernel, by decide +kernel, by decide +kernel, by decide +kernel,
    hlaw.1 (by simp [before, after]), hhanded⟩

end Traffic

end BatchQueue

end Telemetry
