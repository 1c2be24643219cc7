import Telemetry.Proofs.Agent.RestartedTraces
import Telemetry.Proofs.Agent.Settings
import Telemetry.Proofs.Random.Decisions

/-!
# Which transactions are sampled

Whether a transaction is sampled is decided when it starts. One that continues the trace of its
caller does as the caller did. One that starts a new trace goes by the rate of the settings, and
only if that lies between zero and one a number is drawn. So the decisions that are left to chance
follow the stream of numbers one by one, and neither the other transactions nor anything else that
happens gets in between.

The settings and the sampler are all that a decision hangs on, and all that a decision changes is
the sampler.

## Main definitions

* `Start`, `Agent.startOf`: how a transaction starts.
* `Start.draws`, `Start.Settles`: whether chance decides, and what is decided.
* `Agent.decisions`: the decisions of a run.

## Main results

* `Agent.begin_decides`: what one start decides and draws.
* `Agent.sampler_foldl`: as many numbers are drawn as starts are left to chance.
* `Agent.decisions_congr`: nothing but the settings and the sampler matters.
* `Agent.run_decides`: decisions depend on the numbers that are drawn for them.
-/

namespace Telemetry

/-! ### Starts -/

/-- How a transaction starts: in the trace of its caller, which is recorded or not, or in a new one,
at a rate. -/
inductive Start
  | continued (recorded : Bool)
  | fresh (rate : Float)

namespace Start

/-- The start is left to chance. -/
def draws : Start → Bool
  | continued _ => false
  | fresh rate => decide (IsChance rate)

/-- What a start comes to: the trace of a caller goes on as it is, and a new one is sampled at a
rate of one or more, is not at a rate of zero or less, and at any other rate is if the next number
of the stream lies below it. -/
def Settles (next : Float) : Start → Bool → Prop
  | continued recorded, sampled => sampled = recorded
  | fresh rate, sampled =>
    (1 ≤ rate ∨ rate ≤ 0 ∨ 0 < rate ∧ rate < 1) ∧ (1 ≤ rate → sampled = true) ∧
      (rate ≤ 0 → sampled = false) ∧ (0 < rate ∧ rate < 1 → sampled = decide (next < rate))

/-- The decision that a sampler makes, and the sampler afterwards. -/
def run (s : Sampler) : Start → Bool × Sampler
  | continued recorded => (recorded, s)
  | fresh rate => s.decide rate

end Start

/-- A start, and whether the transaction was sampled. -/
structure Decision where
  start : Start
  sampled : Bool

namespace Agent

variable {a a' : Agent} {act : Action} {b : TransactionBuilder}

/-- How a transaction starts, as the settings have it. -/
def startOf (a : Agent) (b : TransactionBuilder) : Start :=
  match b.caller, a.config.current.continuation with
  | some caller, .join => .continued caller.isRecorded
  | some caller, .restartExternal =>
    if caller.entries = [] then .fresh (roundRate a.config.current.sampleRate)
    else .continued caller.isRecorded
  | _, _ => .fresh (roundRate a.config.current.sampleRate)

/-- The decision of an action, if a transaction starts. -/
def decides (a : Agent) : Action → List Decision
  | .beginTransaction b =>
    [⟨a.startOf b,
      ((a.beginTransaction b).1.transaction? (a.beginTransaction b).2).any (·.sampled)⟩]
  | _ => []

/-- The decisions of a run, oldest first. -/
def decisions (a : Agent) : List Action → List Decision
  | [] => []
  | act :: rest => a.decides act ++ (a.perform act).decisions rest

/-! ### What decisions hang on -/

/-- The settings and the sampler. -/
def chance (a : Agent) : ConfigHandle × Sampler := (a.config, a.sampler)

theorem Inward.chance (h : Inward a a') : a'.chance = a.chance := Prod.ext h.config h.sampler

/-- **What neither starts a transaction nor changes the settings** has no part in decisions. -/
theorem chance_perform (hbegins : ∀ b, act ≠ .beginTransaction b)
    (hchanges : act.changesSettings = false) : (a.perform act).chance = a.chance := by
  cases act with
  | advance | moveTo | switchThread | setTransaction | setSpan | forceFlush => rfl
  | updateConfig => cases hchanges
  | attach | dropGuard | shutdown => exact (inward_noteAll _ _).chance
  | beginTransaction b => exact absurd rfl (hbegins b)
  | changeTransaction t c => exact (a.inward_changeTransaction t c).chance
  | ensureParentId t => exact (a.inward_ensureParentId t).chance
  | finishTransaction t result name => exact (a.inward_finishTransaction t result name).chance
  | beginSpan t b parent => exact (a.inward_beginSpanIn t b parent).chance
  | changeSpan s c => exact (a.inward_changeSpan s c).chance
  | outboundOfSpan s => exact (a.inward_outboundOfSpan s).chance
  | endSpan s default => exact (a.inward_endSpan s default).chance
  | captureError | captureMessage => exact (inward_queueError _ _ _ _ _).chance

/-! ### What one start decides -/

theorem isRecorded_addEntry (tp : TraceParent) (key value : String) :
    (tp.addEntry key value).1.isRecorded = tp.isRecorded := by
  unfold TraceParent.addEntry TraceParent.tryAddEntry
  cases Vendor.add tp.tracestate tp.entries key value <;> rfl

/-- A new trace is recorded as the sampler decides. -/
theorem newTrace_decides (a : Agent) (id : SpanId) :
    let decision := a.sampler.decide (roundRate a.config.current.sampleRate)
    (a.newTrace id).2.1.isRecorded = decision.1 ∧
      (a.newTrace id).1.chance = (a.config, decision.2) := by
  refine ⟨?_, ?_⟩
  · simp only [newTrace, isRecorded_addEntry]
    exact TraceFlags.isRecorded_withRecorded _ _
  · obtain ⟨notices, heq⟩ := a.agent_newTrace id
    rw [heq]
    rfl

/-- The trace of a transaction is recorded as the start of it has it. -/
theorem traceFor_decides (a : Agent) (b : TransactionBuilder) (id : SpanId) :
    (a.traceFor b id).2.1.isRecorded = ((a.startOf b).run a.sampler).1 ∧
      (a.traceFor b id).1.chance = (a.config, ((a.startOf b).run a.sampler).2) := by
  unfold traceFor startOf
  cases hcaller : b.caller with
  | none => exact a.newTrace_decides id
  | some caller =>
    cases hcontinuation : a.config.current.continuation with
    | join => exact ⟨rfl, (a.inward_noteAll _).chance⟩
    | restart => exact (a.note (.traceRestarted caller.traceId)).newTrace_decides id
    | restartExternal =>
      dsimp only
      by_cases hentries : caller.entries = []
      · rw [if_neg (by simp [Continuation.continues, hentries]), if_pos hentries]
        exact (a.note (.traceRestarted caller.traceId)).newTrace_decides id
      · rw [if_pos (by simp [Continuation.continues, hentries]), if_neg hentries]
        exact ⟨rfl, (a.inward_noteAll _).chance⟩

/-- **What one start decides and draws.** -/
theorem begin_decides (a : Agent) (b : TransactionBuilder) :
    ∃ tx, (a.beginTransaction b).1.transaction? (a.beginTransaction b).2 = some tx ∧
      tx.sampled = ((a.startOf b).run a.sampler).1 ∧
      (a.beginTransaction b).1.chance = (a.config, ((a.startOf b).run a.sampler).2) := by
  obtain ⟨hrecorded, hchance⟩ := a.freshSpanId.1.traceFor_decides b a.freshSpanId.2
  refine ⟨_, Service.transaction?_start a b, hrecorded, Eq.trans ?_ hchance⟩
  simp only [beginTransaction]
  split <;> rfl

/-- A rate at which a transaction starts was rounded. -/
theorem startOf_cases (a : Agent) (b : TransactionBuilder) :
    (∃ recorded, a.startOf b = .continued recorded) ∨
      ∃ rate, a.startOf b = .fresh (roundRate rate) := by
  unfold startOf
  split
  · exact .inl ⟨_, rfl⟩
  · split
    · exact .inr ⟨_, rfl⟩
    · exact .inl ⟨_, rfl⟩
  · exact .inr ⟨_, rfl⟩

/-- What is decided is what the start and the next number come to. -/
theorem startOf_settles (a : Agent) (b : TransactionBuilder) (s : Sampler) :
    (a.startOf b).Settles (Stream.unit s.seed s.drawn) ((a.startOf b).run s).1 := by
  rcases a.startOf_cases b with ⟨recorded, heq⟩ | ⟨rate, heq⟩ <;> rw [heq]
  · rfl
  · exact ⟨roundRate_cases rate, fun h => congrArg Prod.fst (s.decide_of_one_le h),
      fun h => congrArg Prod.fst (s.decide_of_le_zero h),
      fun h => congrArg Prod.fst (s.decide_of_isChance h)⟩

/-- A number is drawn for a start that is left to chance, and for no other. -/
theorem sampler_run_startOf (a : Agent) (b : TransactionBuilder) (s : Sampler) :
    ((a.startOf b).run s).2 =
      { s with drawn := s.drawn + if (a.startOf b).draws then 1 else 0 } := by
  rcases a.startOf_cases b with ⟨recorded, heq⟩ | ⟨rate, heq⟩ <;> rw [heq]
  · rfl
  · by_cases hchance : IsChance (roundRate rate)
    · simp only [Start.run, s.decide_of_isChance hchance, Start.draws, hchance, decide_true,
        if_true]
    · have hsettled : (s.decide (roundRate rate)).2 = s := by
        rcases roundRate_cases rate with h | h | h
        · rw [s.decide_of_one_le h]
        · rw [s.decide_of_le_zero h]
        · exact absurd h hchance
      simp only [Start.run, hsettled, Start.draws, hchance, decide_false, Bool.false_eq_true,
        if_false, Nat.add_zero]

/-! ### Runs -/

theorem decides_beginTransaction (a : Agent) (b : TransactionBuilder) :
    a.decides (.beginTransaction b) = [⟨a.startOf b, ((a.startOf b).run a.sampler).1⟩] := by
  obtain ⟨tx, htx, hsampled, -⟩ := a.begin_decides b
  simp only [decides, htx, Option.any_some, hsampled]

theorem decisions_append (a : Agent) (l l' : List Action) :
    a.decisions (l ++ l') = a.decisions l ++ (l.foldl perform a).decisions l' := by
  induction l generalizing a with
  | nil => rfl
  | cons act l ih => rw [List.cons_append, decisions, decisions, ih, List.append_assoc]; rfl

/-- An action starts a transaction, or changes the settings, or has no part in decisions. -/
theorem perform_cases (act : Action) :
    (∃ b, act = .beginTransaction b) ∨ (∃ f, act = .updateConfig f) ∨
      ∀ a : Agent, a.decides act = [] ∧ (a.perform act).chance = a.chance := by
  cases act with
  | beginTransaction b => exact .inl ⟨b, rfl⟩
  | updateConfig f => exact .inr (.inl ⟨f, rfl⟩)
  | _ => exact .inr (.inr fun a => ⟨rfl, chance_perform (by simp) rfl⟩)

theorem sampler_perform (a : Agent) (act : Action) :
    (a.perform act).sampler =
      { a.sampler with drawn := a.sampler.drawn + (a.decides act).countP (·.start.draws) } := by
  rcases perform_cases act with ⟨b, rfl⟩ | ⟨f, rfl⟩ | hothers
  · obtain ⟨-, -, -, hchance⟩ := a.begin_decides b
    rw [decides_beginTransaction, List.countP_singleton, ← sampler_run_startOf]
    exact congrArg Prod.snd hchance
  · rfl
  · obtain ⟨hnone, hchance⟩ := hothers a
    rw [hnone]
    exact congrArg Prod.snd hchance

/-- **As many numbers are drawn as starts are left to chance.** -/
theorem sampler_foldl (a : Agent) (actions : List Action) :
    (actions.foldl perform a).sampler =
      { a.sampler with
        drawn := a.sampler.drawn + (a.decisions actions).countP (·.start.draws) } := by
  induction actions generalizing a with
  | nil => rfl
  | cons act rest ih =>
    rw [List.foldl_cons, ih, sampler_perform, decisions, List.countP_append, Nat.add_assoc]

/-- One step of two agents with the same settings and the same sampler. -/
theorem perform_congr (h : a.chance = a'.chance) (act : Action) :
    a.decides act = a'.decides act ∧ (a.perform act).chance = (a'.perform act).chance := by
  obtain ⟨hconfig, hsampler⟩ := Prod.mk.inj h
  rcases perform_cases act with ⟨b, rfl⟩ | ⟨f, rfl⟩ | hothers
  · have hstart : a.startOf b = a'.startOf b := by simp only [startOf, hconfig]
    obtain ⟨-, -, -, hchance⟩ := a.begin_decides b
    obtain ⟨-, -, -, hchance'⟩ := a'.begin_decides b
    refine ⟨?_, ?_⟩
    · rw [decides_beginTransaction, decides_beginTransaction, hstart, hsampler]
    · rw [perform, perform, hchance, hchance', hconfig, hstart, hsampler]
  · exact ⟨rfl, congrArg (fun c => (c.1.update f, c.2)) h⟩
  · obtain ⟨hnone, hchance⟩ := hothers a
    obtain ⟨hnone', hchance'⟩ := hothers a'
    exact ⟨hnone.trans hnone'.symm, hchance.trans (h.trans hchance'.symm)⟩

/-- **Nothing but the settings and the sampler matters** for decisions. -/
theorem decisions_congr (h : a.chance = a'.chance) (actions : List Action) :
    a.decisions actions = a'.decisions actions := by
  induction actions generalizing a a' with
  | nil => rfl
  | cons act rest ih =>
    obtain ⟨hdecides, hchance⟩ := perform_congr h act
    rw [decisions, decisions, hdecides, ih hchance]

/-- A start that is not left to chance leaves nothing behind that a decision could hang on. -/
theorem chance_beginTransaction (h : (a.startOf b).draws = false) :
    (a.perform (.beginTransaction b)).chance = a.chance := by
  obtain ⟨-, -, -, hchance⟩ := a.begin_decides b
  rw [perform, hchance, sampler_run_startOf, h]
  rfl

/-! ### The decisions that are left to chance -/

/-- The decisions that a sampler makes for starts that come one after the other. -/
def decisionsFor (s : Sampler) : List Start → List Decision
  | [] => []
  | start :: rest => ⟨start, (start.run s).1⟩ :: decisionsFor (start.run s).2 rest

/-- What is left to chance is decided as if nothing else were started. -/
theorem filter_decisions (a : Agent) (actions : List Action) :
    (a.decisions actions).filter (·.start.draws) =
      decisionsFor a.sampler (((a.decisions actions).map (·.start)).filter Start.draws) := by
  induction actions generalizing a with
  | nil => rfl
  | cons act rest ih =>
    have hrest := ih (a.perform act)
    rcases perform_cases act with ⟨b, rfl⟩ | ⟨f, rfl⟩ | hothers
    · obtain ⟨-, -, -, hchance⟩ := a.begin_decides b
      have hsampler : (a.perform (.beginTransaction b)).sampler =
        ((a.startOf b).run a.sampler).2 := congrArg Prod.snd hchance
      rw [hsampler] at hrest
      rw [decisions, decides_beginTransaction, List.singleton_append, List.map_cons,
        List.filter_cons, List.filter_cons, hrest]
      cases hdraws : (a.startOf b).draws with
      | true => rfl
      | false =>
        rw [sampler_run_startOf, hdraws]
        rfl
    · exact hrest
    · obtain ⟨hnone, hchance⟩ := hothers a
      have hsampler : (a.perform act).sampler = a.sampler := congrArg Prod.snd hchance
      rw [decisions, hnone, List.nil_append, hrest, hsampler]

/-- **Decisions depend on the numbers that are drawn for them.** Anything may happen to an agent,
and its settings may change.

* A transaction that continues the trace of its caller is sampled if that is recorded. One that
  starts a trace at a rounded rate of one or more is sampled, and one at a rate of zero or less is
  not. One at a rate in between is sampled if the next number of the stream of the seed lies below
  the rate, where as many numbers are gone as transactions were started so before.
* A transaction that needs no number may start or not, and all other decisions stay as they are.
* Two agents that are at the same place of the same stream decide alike about what is left to
  chance, if it is started at the same rates. -/
theorem run_decides (a : Agent) :
    (∀ (before : List Action) (b : TransactionBuilder),
      let now := before.foldl perform a
      let drawn := a.sampler.drawn + (a.decisions before).countP (·.start.draws)
      now.sampler = ⟨a.sampler.seed, drawn⟩ ∧
        ∃ tx, (now.beginTransaction b).1.transaction? (now.beginTransaction b).2 = some tx ∧
          (now.startOf b).Settles (Stream.unit a.sampler.seed drawn) tx.sampled) ∧
    (∀ before b after, ((before.foldl perform a).startOf b).draws = false →
      ∃ sampled rest,
        a.decisions (before ++ .beginTransaction b :: after) =
          a.decisions before ++ ⟨(before.foldl perform a).startOf b, sampled⟩ :: rest ∧
        a.decisions (before ++ after) = a.decisions before ++ rest) ∧
    ∀ (a' : Agent) (actions actions' : List Action), a'.sampler = a.sampler →
      ((a'.decisions actions').map (·.start)).filter Start.draws =
        ((a.decisions actions).map (·.start)).filter Start.draws →
      (a'.decisions actions').filter (·.start.draws) =
        (a.decisions actions).filter (·.start.draws) := by
  refine ⟨fun before b => ?_, fun before b after h => ?_, fun a' actions actions' hs hstarts => ?_⟩
  · intro now drawn
    have hnow : now.sampler = ⟨a.sampler.seed, drawn⟩ := a.sampler_foldl before
    obtain ⟨tx, htx, hsampled, -⟩ := now.begin_decides b
    have hsettles := now.startOf_settles b now.sampler
    rw [← hsampled, hnow] at hsettles
    exact ⟨hnow, tx, htx, hsettles⟩
  · let now := before.foldl perform a
    refine ⟨((now.startOf b).run now.sampler).1, now.decisions after, ?_,
      a.decisions_append before after⟩
    rw [decisions_append, decisions, decides_beginTransaction, List.singleton_append,
      decisions_congr (chance_beginTransaction h)]
  · rw [filter_decisions, filter_decisions, hs, hstarts]

/-- A quarter of the traces are sampled. Between two that begin here another one is joined. -/
theorem run_decides_joined :
    let a : Agent := { config := ⟨{ sampleRate := 0.25, continuation := .join }, 0⟩ }
    let root : TransactionBuilder := { kind := "request" }
    let joined : TransactionBuilder :=
      { kind := "request", caller := some (.create (.ofNat 1) (.ofNat 2) true) }
    let begun := a.perform (.beginTransaction root)
    let alone : List Action := [.beginTransaction root, .beginTransaction root]
    let between : List Action :=
      [.beginTransaction root, .beginTransaction joined, .beginTransaction root]
    (a.startOf root).draws = true ∧ (begun.startOf joined).draws = false ∧
      (begun.perform (.beginTransaction joined)).sampler = ⟨0, 1⟩ ∧
      (∃ sampled rest,
        a.decisions between =
          a.decisions [.beginTransaction root] ++ ⟨begun.startOf joined, sampled⟩ :: rest ∧
        a.decisions alone = a.decisions [.beginTransaction root] ++ rest) ∧
      (a.decisions between).filter (·.start.draws) = (a.decisions alone).filter (·.start.draws) := by
  intro a root joined begun alone between
  have hjoined : (begun.startOf joined).draws = false := by decide +kernel
  obtain ⟨-, hinsert, halike⟩ := a.run_decides
  obtain ⟨sampled, rest, hbetween, halone⟩ : ∃ sampled rest,
      a.decisions between =
        a.decisions [.beginTransaction root] ++ ⟨begun.startOf joined, sampled⟩ :: rest ∧
      a.decisions alone = a.decisions [.beginTransaction root] ++ rest :=
    hinsert [.beginTransaction root] joined [.beginTransaction root] hjoined
  have hstarts : ((a.decisions between).map (·.start)).filter Start.draws =
      ((a.decisions alone).map (·.start)).filter Start.draws := by
    rw [hbetween, halone, List.map_append, List.map_append, List.filter_append,
      List.filter_append, List.map_cons, List.filter_cons_of_neg (by simp [hjoined])]
  exact ⟨by decide +kernel, hjoined, by decide +kernel, ⟨sampled, rest, hbetween, halone⟩,
    halike a _ _ rfl hstarts⟩

end Agent

end Telemetry
