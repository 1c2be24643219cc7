import Telemetry.Proofs.Agent.Calls
import Telemetry.Proofs.Agent.TaskPrograms
import Telemetry.Proofs.ContextStack.Nested

/-!
# Tasks do not see each other's context

A program of tasks runs on the stack of the thread as it would run with a stack for each poll. The
two runs are followed side by side. At any moment the frame that is running has a stack of its own,
which is the same in both, on top of different contexts that were saved before. No operation of the
frame reaches below its own stack, and when its guards are dropped nothing of it is left, so that
the guard of the poll restores what was current around it.

## Main definitions

* `Agent.apart`: all of the state but the contexts of the thread.
* `TaskFrame.Over`, `TaskFrame.Twin`: a frame with a stack of its own, and two that have the same.
* `TaskLog.Continues`: every poll found what its task held.

## Main results

* `TaskFrame.Twin.step`: one operation does the same on both stacks.
* `TaskFrame.Twin.resume`: after a poll everything around it is as it was.
* `TaskFrame.Twin.runBy_eq`: a program does the same on both stacks.
* `TaskProgram.run_apart`: tasks do not see each other's context.
-/

namespace Telemetry

/-! ### The agent without its contexts -/

namespace Agent

/-- All of the state but the contexts of the thread. -/
def apart (a : Agent) : Agent := { a with contexts := {} }

variable {a a' : Agent}

theorem eq_of_apart (h : a.apart = a'.apart) (hcontexts : a.contexts = a'.contexts) : a = a' := by
  obtain ⟨⟩ := a
  obtain ⟨⟩ := a'
  simp only [apart, mk.injEq] at h
  simp_all

theorem apart_noteAll (a : Agent) (ns : List Notice) :
    (a.noteAll ns).apart = a.apart.noteAll ns := by
  induction ns generalizing a with
  | nil => rfl
  | cons n rest ih => exact ih (a.note n)

theorem apart_enqueueAll (a : Agent) (events : List Event) :
    (a.enqueueAll events).apart = a.apart.enqueueAll events := by
  induction events generalizing a with
  | nil => rfl
  | cons e rest ih =>
    have hfirst : (a.enqueue e false).apart = a.apart.enqueue e false := apart_noteAll _ _
    rw [enqueueAll, List.foldl_cons, ← enqueueAll, ih, hfirst]
    rfl

theorem apart_newTrace (a : Agent) (id : SpanId) :
    a.apart.newTrace id = ((a.newTrace id).1.apart, (a.newTrace id).2) := by
  simp only [newTrace, apart_noteAll]
  rfl

theorem apart_traceFor (a : Agent) (b : TransactionBuilder) (id : SpanId) :
    a.apart.traceFor b id = ((a.traceFor b id).1.apart, (a.traceFor b id).2) := by
  unfold traceFor
  cases b.caller with
  | none => simp only [apart_newTrace]
  | some caller =>
    have hnote : a.apart.note (.traceRestarted caller.traceId) =
        (a.note (.traceRestarted caller.traceId)).apart := rfl
    have hconfig : a.apart.config = a.config := rfl
    simp only [hconfig, hnote, apart_newTrace]
    split
    · simp only [apart_noteAll]
    · rfl

theorem apart_beginTransaction (a : Agent) (b : TransactionBuilder) :
    (a.apart.beginTransaction b).1.apart = (a.beginTransaction b).1.apart := by
  have htrace := apart_traceFor a.freshSpanId.1 b a.freshSpanId.2
  have hfresh : a.apart.freshSpanId = (a.freshSpanId.1.apart, a.freshSpanId.2) := rfl
  simp only [beginTransaction, hfresh, htrace]
  cases b.activate <;> rfl

theorem apart_finishTransaction (a : Agent) (t : TransactionRef) (result name : Option String) :
    (a.apart.finishTransaction t result name).1 = (a.finishTransaction t result name).1.apart := by
  have htx : a.apart.transaction? t = a.transaction? t := rfl
  unfold finishTransaction
  rw [htx]
  split
  · rfl
  split
  · rfl
  · simp only [apart_enqueueAll]
    rfl

theorem apart_endTransaction (a : Agent) (result name : Option String) :
    (a.endTransaction result name).1.apart =
      match a.currentTransaction with
      | none => a.apart.note .noCurrentTransaction
      | some t => (a.apart.finishTransaction t result name).1 := by
  cases h : a.currentTransaction with
  | none =>
    simp only [endTransaction, h]
    rfl
  | some t =>
    simp only [endTransaction, h, ← apart_finishTransaction]
    rfl

/-- What is current is read off the current context and the transactions. -/
theorem currentTransaction_congr (h : a.apart = a'.apart) (hcontext : a.context = a'.context) :
    a.currentTransaction = a'.currentTransaction := by
  have hsame : a.apart.transactionOf a.context = a'.apart.transactionOf a'.context := by
    rw [h, hcontext]
  exact hsame

theorem apart_attach {c : Context} (hsilent : (a.contexts.attach c).2.2 = []) :
    (a.attach c).1.apart = a.apart := by
  simp only [attach, takeContexts, hsilent]
  rfl

theorem guard_attach (a : Agent) (c : Context) : (a.attach c).2 = (a.contexts.attach c).2.1 := rfl

theorem apart_dropGuard {g : Guard} (hsilent : (a.contexts.drop g).2 = []) :
    (a.dropGuard g).apart = a.apart := by
  simp only [dropGuard, takeContexts, hsilent]
  rfl

theorem ref_beginTransaction (a : Agent) (b : TransactionBuilder) :
    (a.beginTransaction b).2 = a.transactions.size := by
  obtain ⟨_, _, _, _, href, _⟩ := a.beginTransaction_eq b
  exact href

/-- A transaction that is not activated changes nothing that is current. -/
theorem contexts_beginTransaction_of_not_activate {b : TransactionBuilder}
    (hinactive : b.activate = false) : (a.beginTransaction b).1.contexts = a.contexts := by
  have htrace := contexts_traceFor a.freshSpanId.1 b a.freshSpanId.2
  simp only [beginTransaction, hinactive]
  exact htrace

theorem contexts_endTransaction (a : Agent) (result name : Option String) :
    (a.endTransaction result name).1.contexts =
      if a.currentTransaction.isSome then a.contexts.setTransaction none else a.contexts := by
  unfold endTransaction
  split
  next h => rw [h]; rfl
  next t h =>
    rw [h]
    exact (inward_finishTransaction (a.setTransaction none) t result name).contexts

end Agent

/-! ### One operation -/

/-- The contexts that a frame has attached, and their guards, as a stack of its own. -/
structure OwnStack (own : GuardedStack) : Prop where
  keeps : ∃ m, own.Keeps m
  accepted : ∀ {name g}, own.Alive name g → g ≠ ContextStack.refused

namespace OwnStack

variable {own : GuardedStack}

theorem onBase (c : Context) : OwnStack (.onBase c) where
  keeps := ⟨_, GuardedStack.keeps_onBase c⟩
  accepted := by simp [GuardedStack.Alive, GuardedStack.onBase]

theorem step (h : OwnStack own) {action : ContextAction}
    (hroom : ∀ c, action = .attach c → own.stack.saved.size + 1 < ContextStack.limit) :
    OwnStack (own.step action) := by
  obtain ⟨m, hm⟩ := h.keeps
  refine ⟨⟨_, hm.step action⟩, fun {name g} ha => ?_⟩
  cases action with
  | attach c =>
    simp only [GuardedStack.Alive, GuardedStack.step, List.getElem?_append] at ha
    split at ha
    · exact h.accepted ha
    · obtain ⟨-, rfl⟩ : name - own.guards.length = 0 ∧ (own.stack.attach c).2.1 = g := by
        simpa [List.getElem?_singleton] using ha
      rw [ContextStack.attach_of_room (hroom c rfl), ne_eq, ContextStack.refused, Guard.mk.injEq]
      exact Nat.ne_of_lt (hroom c rfl)
  | drop name' => exact h.accepted (GuardedStack.alive_of_step_drop ha).1
  | setTransaction t => exact h.accepted ha
  | setSpan s => exact h.accepted ha

end OwnStack

namespace TaskFrame

/-- The contexts of a frame are a stack of its own on top of what was saved before. -/
structure Over (below : Array (Option Context)) (own : GuardedStack) (f : TaskFrame) : Prop where
  contexts : f.agent.contexts = own.stack.above below
  guards : f.guards = own.guards.map (Option.map (·.above below.size))
  limit : below.size + own.stack.saved.size < ContextStack.limit

variable {below below' : Array (Option Context)} {own : GuardedStack} {f f' : TaskFrame}

theorem Over.context (h : f.Over below own) : f.agent.context = own.stack.current := by
  rw [Agent.context, h.contexts]
  rfl

theorem Over.attach_eq (h : f.Over below own) (hroom : f.Room) (c : Context) :
    f.agent.contexts.attach c = ((own.stack.attach c).1.above below,
      (own.stack.attach c).2.1.above below.size, []) := by
  rw [h.contexts]
  refine ContextStack.attach_above ?_ c
  rwa [Room, h.contexts, ContextStack.size_saved_above] at hroom

theorem Over.attach (h : f.Over below own) (hroom : f.Room) (c : Context) :
    (f.perform (.attach c)).Over below (own.step (.attach c)) where
  contexts := by
    change (f.agent.attach c).1.contexts = _
    rw [Agent.contexts_attach, h.attach_eq hroom]
    rfl
  guards := by
    change f.guards ++ [some (f.agent.attach c).2] = _
    rw [Agent.guard_attach, h.attach_eq hroom, h.guards, GuardedStack.step, List.map_append]
    rfl
  limit := by
    rw [Room, h.contexts, ContextStack.size_saved_above] at hroom
    have hown : own.stack.saved.size + 1 < ContextStack.limit := by omega
    rw [GuardedStack.step, ContextStack.attach_of_room hown, Array.size_push]
    omega

theorem Over.getElem?_guards (h : f.Over below own) (name : Nat) :
    f.guards[name]? = own.guards[name]?.map (Option.map (·.above below.size)) := by
  rw [h.guards, List.getElem?_map]

/-- A guard that is not alive is not dropped. -/
theorem Over.perform_dropGuard_of_not_alive (h : f.Over below own) {name : Nat}
    (hdead : ∀ g, ¬ own.Alive name g) : f.perform (.dropGuard name) = f := by
  have hguard := h.getElem?_guards name
  unfold perform
  dsimp only
  split
  next g hg =>
    rw [hguard] at hg
    obtain ⟨guard, hname, hg⟩ := Option.map_eq_some_iff.mp hg
    obtain ⟨g', rfl, -⟩ := Option.map_eq_some_iff.mp hg
    exact absurd hname (hdead g')
  next => rfl

/-- A guard that is alive is dropped where it stands, above the contexts below. -/
theorem Over.perform_dropGuard_of_alive (h : f.Over below own) {name : Nat} {g : Guard}
    (hg : own.Alive name g) : f.perform (.dropGuard name) =
      { f with
        agent := f.agent.dropGuard (g.above below.size)
        guards := f.guards.set name none } := by
  have hname : own.guards[name]? = some (some g) := hg
  simp only [perform, h.getElem?_guards, hname, Option.map_some]

theorem Over.dropGuard (h : f.Over below own) (hown : OwnStack own) (name : Nat) :
    (f.perform (.dropGuard name)).Over below (own.step (.drop name)) ∧
      (f.perform (.dropGuard name)).agent.apart = f.agent.apart ∧
      (f.perform (.dropGuard name)).log = f.log := by
  by_cases hdead : ∀ g, ¬ own.Alive name g
  · rw [h.perform_dropGuard_of_not_alive hdead, GuardedStack.step_drop_of_not_alive hdead]
    exact ⟨h, rfl, rfl⟩
  · obtain ⟨g, hg⟩ := not_forall_not.mp hdead
    obtain ⟨m, hm⟩ := hown.keeps
    have hposition := hm.position_le hg (hown.accepted hg)
    have hdrop : f.agent.contexts.drop (g.above below.size) =
        ((own.stack.drop g).1.above below, []) := by
      rw [h.contexts]
      exact ContextStack.drop_above hm.grounded hposition.1 hposition.2 h.limit
    rw [h.perform_dropGuard_of_alive hg, GuardedStack.step_drop_of_alive hg]
    refine ⟨⟨?_, ?_, ?_⟩, Agent.apart_dropGuard (by rw [hdrop]), rfl⟩
    · rw [Agent.contexts_dropGuard, hdrop]
    · rw [h.guards, List.map_set]
      rfl
    · have hsize := ContextStack.size_saved_drop_le own.stack g
      exact Nat.lt_of_le_of_lt (Nat.add_le_add_left hsize _) h.limit

/-- Two frames that have done the same on top of different contexts. -/
structure Twin (below below' : Array (Option Context)) (own : GuardedStack) (f f' : TaskFrame) :
    Prop where
  left : f.Over below own
  right : f'.Over below' own
  own : OwnStack own
  agent : f.agent.apart = f'.agent.apart
  log : f.log = f'.log
  lower : below'.size ≤ below.size

theorem Twin.context (h : Twin below below' own f f') : f.agent.context = f'.agent.context := by
  rw [h.left.context, h.right.context]

theorem Twin.look (h : Twin below below' own f f') : Twin below below' own f.look f'.look :=
  { h with
    left := ⟨h.left.contexts, h.left.guards, h.left.limit⟩
    right := ⟨h.right.contexts, h.right.guards, h.right.limit⟩
    log := by rw [TaskFrame.look, TaskFrame.look, h.log, h.context] }

/-- What is done in place leaves what is saved, and the guards, alone. -/
theorem Twin.revise (h : Twin below below' own f f') {s : ContextStack} {a a' : Agent}
    (hown : OwnStack ⟨s, own.guards⟩) (hsaved : s.saved = own.stack.saved)
    (hcontexts : a.contexts = s.above below) (hcontexts' : a'.contexts = s.above below')
    (hagent : a.apart = a'.apart) {log log' : TaskLog} (hlog : log = log') :
    Twin below below' ⟨s, own.guards⟩ ⟨a, log, f.guards⟩ ⟨a', log', f'.guards⟩ where
  left := ⟨hcontexts, h.left.guards, by rw [hsaved]; exact h.left.limit⟩
  right := ⟨hcontexts', h.right.guards, by rw [hsaved]; exact h.right.limit⟩
  own := hown
  agent := hagent
  log := hlog
  lower := h.lower

theorem Twin.beginTransaction (h : Twin below below' own f f') (b : TransactionBuilder) :
    ∃ own', Twin below below' own' (f.perform (.beginTransaction b))
      (f'.perform (.beginTransaction b)) := by
  have hagent : (f.agent.beginTransaction b).1.apart = (f'.agent.beginTransaction b).1.apart := by
    rw [← Agent.apart_beginTransaction f.agent, h.agent, Agent.apart_beginTransaction]
  cases hactive : b.activate with
  | false =>
    have hcontexts (a : Agent) : (a.beginTransaction b).1.contexts = a.contexts :=
      Agent.contexts_beginTransaction_of_not_activate hactive
    exact ⟨own, h.revise (s := own.stack) h.own rfl ((hcontexts _).trans h.left.contexts)
      ((hcontexts _).trans h.right.contexts) hagent h.log⟩
  | true =>
    have hsize : f.agent.transactions.size = f'.agent.transactions.size :=
      congrArg (·.transactions.size) h.agent
    have hfirst : OwnStack (own.step (.setTransaction (some f.agent.transactions.size))) :=
      h.own.step nofun
    have hown : OwnStack ((own.step (.setTransaction (some f.agent.transactions.size))).step
      (.setSpan none)) := hfirst.step nofun
    refine ⟨_, h.revise hown rfl ?_ ?_ hagent h.log⟩
    · rw [Agent.contexts_beginTransaction hactive, Agent.ref_beginTransaction, h.left.contexts]
      rfl
    · rw [Agent.contexts_beginTransaction hactive, Agent.ref_beginTransaction, h.right.contexts,
        ← hsize]
      rfl

theorem Twin.endTransaction (h : Twin below below' own f f') (result name : Option String) :
    ∃ own', Twin below below' own' (f.perform (.endTransaction result name))
      (f'.perform (.endTransaction result name)) := by
  have hcurrent : f.agent.currentTransaction = f'.agent.currentTransaction :=
    Agent.currentTransaction_congr h.agent h.context
  have hagent : (f.agent.endTransaction result name).1.apart =
      (f'.agent.endTransaction result name).1.apart := by
    rw [Agent.apart_endTransaction, Agent.apart_endTransaction, hcurrent, h.agent]
  have hcontexts := f.agent.contexts_endTransaction result name
  have hcontexts' := f'.agent.contexts_endTransaction result name
  rw [h.left.contexts, hcurrent] at hcontexts
  rw [h.right.contexts] at hcontexts'
  cases hsome : f'.agent.currentTransaction.isSome with
  | false =>
    rw [hsome] at hcontexts hcontexts'
    exact ⟨own, h.revise (s := own.stack) h.own rfl hcontexts hcontexts' hagent h.log⟩
  | true =>
    rw [hsome] at hcontexts hcontexts'
    have hown : OwnStack (own.step (.setTransaction none)) := h.own.step nofun
    exact ⟨_, h.revise hown rfl hcontexts hcontexts' hagent h.log⟩

theorem Twin.attach (h : Twin below below' own f f') (hroom : f.Room) (c : Context) :
    Twin below below' (own.step (.attach c)) (f.perform (.attach c)) (f'.perform (.attach c)) := by
  have hroom' : f'.Room := by
    have hlower := h.lower
    rw [Room, h.left.contexts, ContextStack.size_saved_above] at hroom
    rw [Room, h.right.contexts, ContextStack.size_saved_above]
    omega
  have hownRoom : own.stack.saved.size + 1 < ContextStack.limit := by
    rw [Room, h.left.contexts, ContextStack.size_saved_above] at hroom
    omega
  exact
    { left := h.left.attach hroom c
      right := h.right.attach hroom' c
      own := h.own.step fun _ _ => hownRoom
      agent := by
        change (f.agent.attach c).1.apart = (f'.agent.attach c).1.apart
        rw [Agent.apart_attach (by rw [h.left.attach_eq hroom]),
          Agent.apart_attach (by rw [h.right.attach_eq hroom']), h.agent]
      log := h.log
      lower := h.lower }

theorem Twin.dropGuard (h : Twin below below' own f f') (name : Nat) :
    Twin below below' (own.step (.drop name)) (f.perform (.dropGuard name))
      (f'.perform (.dropGuard name)) := by
  obtain ⟨hover, hagent, hlog⟩ := h.left.dropGuard h.own name
  obtain ⟨hover', hagent', hlog'⟩ := h.right.dropGuard h.own name
  exact
    { left := hover
      right := hover'
      own := h.own.step nofun
      agent := by rw [hagent, hagent', h.agent]
      log := by rw [hlog, hlog', h.log]
      lower := h.lower }

theorem Twin.perform (h : Twin below below' own f f') {op : TaskOp} (hfits : f.OpFits op) :
    ∃ own', Twin below below' own' (f.perform op) (f'.perform op) := by
  cases op with
  | setTransaction t =>
    have hown : OwnStack (own.step (.setTransaction t)) := h.own.step nofun
    have hagent : (f.agent.setTransaction t).apart = (f'.agent.setTransaction t).apart := h.agent
    exact ⟨_, h.revise hown rfl (congrArg (·.setTransaction t) h.left.contexts)
      (congrArg (·.setTransaction t) h.right.contexts) hagent h.log⟩
  | setSpan s =>
    have hown : OwnStack (own.step (.setSpan s)) := h.own.step nofun
    have hagent : (f.agent.setSpan s).apart = (f'.agent.setSpan s).apart := h.agent
    exact ⟨_, h.revise hown rfl (congrArg (·.setSpan s) h.left.contexts)
      (congrArg (·.setSpan s) h.right.contexts) hagent h.log⟩
  | beginTransaction b => exact h.beginTransaction b
  | endTransaction result name => exact h.endTransaction result name
  | attach c => exact ⟨_, h.attach hfits c⟩
  | dropGuard name => exact ⟨_, h.dropGuard name⟩
  | wrap c =>
    have hlog : f.log.record (.wrapped c) = f'.log.record (.wrapped c) := by rw [h.log]
    exact ⟨own, h.revise (s := own.stack) h.own rfl h.left.contexts h.right.contexts h.agent hlog⟩
  | wrapCurrent =>
    have hlog : f.log.record (.wrapped f.agent.context) =
        f'.log.record (.wrapped f'.agent.context) := by rw [h.log, h.context]
    exact ⟨own, h.revise (s := own.stack) h.own rfl h.left.contexts h.right.contexts h.agent hlog⟩

theorem Twin.step (h : Twin below below' own f f') {op : TaskOp} (hfits : f.OpFits op) :
    ∃ own', Twin below below' own' (f.step op) (f'.step op) := by
  obtain ⟨own', h'⟩ := h.perform hfits
  exact ⟨own', h'.look⟩

/-! ### Programs -/

theorem Twin.dropGuards (h : Twin below below' own f f') (names : List Nat) :
    Twin below below' ((names.map .drop).foldl GuardedStack.step own)
      ((names.map .dropGuard).foldl TaskFrame.step f)
      ((names.map .dropGuard).foldl TaskFrame.step f') := by
  induction names generalizing own f f' with
  | nil => exact h
  | cons name rest ih => exact ih (h.dropGuard name).look

/-- What is left alive was alive before, and was not dropped. -/
theorem alive_of_foldl_drop {names : List Nat} {name : Nat} {g : Guard}
    (ha : ((names.map .drop).foldl GuardedStack.step own).Alive name g) :
    own.Alive name g ∧ name ∉ names := by
  induction names generalizing own with
  | nil => exact ⟨ha, List.not_mem_nil⟩
  | cons first rest ih =>
    obtain ⟨ha, hrest⟩ := ih ha
    obtain ⟨ha, hfirst⟩ := GuardedStack.alive_of_step_drop ha
    exact ⟨ha, by simp [hfirst, hrest]⟩

/-- Two runs that end alike, each with everything saved that was saved before. -/
structure SameEnd (below below' : Array (Option Context)) (r r' : Agent × TaskLog) : Prop where
  contexts : ∃ current, r.1.contexts = ⟨current, below⟩ ∧ r'.1.contexts = ⟨current, below'⟩
  agent : r.1.apart = r'.1.apart
  log : r.2 = r'.2

/-- A frame that has dropped its guards has nothing left on the stack. -/
theorem Twin.finish (h : Twin below below' own f f') :
    SameEnd below below' (f.finish.agent, f.finish.log) (f'.finish.agent, f'.finish.log) := by
  obtain ⟨own', hend, hempty⟩ :
      ∃ own', Twin below below' own' f.finish f'.finish ∧ own'.stack.saved = #[] := by
    have hlength : f.guards.length = own.guards.length := by rw [h.left.guards, List.length_map]
    have hlength' : f'.guards.length = own.guards.length := by rw [h.right.guards, List.length_map]
    rw [TaskFrame.finish, TaskFrame.finish, hlength, hlength']
    have hend := h.dropGuards (List.range own.guards.length).reverse
    obtain ⟨m, hm⟩ := hend.own.keeps
    refine ⟨_, hend, hm.saved_eq_empty fun name g ha => ?_⟩
    obtain ⟨ha, hname⟩ := alive_of_foldl_drop ha
    have hlt : name < own.guards.length := (List.getElem?_eq_some_iff.mp ha).1
    simp [hlt] at hname
  refine ⟨⟨own'.stack.current, ?_, ?_⟩, hend.agent, hend.log⟩
  · rw [hend.left.contexts, ContextStack.above, hempty, Array.append_empty]
  · rw [hend.right.contexts, ContextStack.above, hempty, Array.append_empty]

/-- What a poll finds: the context of the task alone, on top of all that was there. -/
theorem Twin.start (h : Twin below below' own f f') (hroom : f.Room) (task : Nat) (c : Context) :
    let inside := (f.agent.attach c).1
    let inside' := { f'.agent with contexts := ⟨c, #[]⟩ }
    Twin (f.agent.contexts.saved.push (some f.agent.contexts.current)) #[] (.onBase c)
      ⟨inside, f.log.record (.started task inside.context), []⟩
      ⟨inside', f'.log.record (.started task inside'.context), []⟩ := by
  intro inside inside'
  have hinside : inside.contexts =
      ⟨c, f.agent.contexts.saved.push (some f.agent.contexts.current)⟩ := by
    rw [Agent.contexts_attach, ContextStack.attach_of_room hroom]
  have hcontext : inside.context = c := by rw [Agent.context, hinside]
  exact
    { left := ⟨by simp [hinside, ContextStack.above, GuardedStack.onBase], rfl, by
        rw [Array.size_push]
        exact hroom⟩
      right := ⟨by simp [inside', ContextStack.above, GuardedStack.onBase], rfl, by
        change 0 + 0 < ContextStack.limit
        decide⟩
      own := .onBase c
      agent := (Agent.apart_attach (by rw [ContextStack.attach_of_room hroom])).trans h.agent
      log := by rw [hcontext, h.log]; rfl
      lower := by simp }

/-- **After a poll everything around it is as it was**, and the task holds what the poll left. -/
theorem Twin.resume (h : Twin below below' own f f') (hroom : f.Room) (task : Nat) (c : Context)
    {r r' : Agent × TaskLog}
    (hend : SameEnd (f.agent.contexts.saved.push (some f.agent.contexts.current)) #[] r r') :
    Twin below below' own
      ⟨r.1.dropGuard (f.agent.attach c).2, r.2.record (.finished task r.1.context), f.guards⟩
      ⟨{ r'.1 with contexts := f'.agent.contexts }, r'.2.record (.finished task r'.1.context),
        f'.guards⟩ := by
  obtain ⟨current, hcontexts, hcontexts'⟩ := hend.contexts
  have hdrop : r.1.contexts.drop (f.agent.attach c).2 = (f.agent.contexts, []) := by
    have hback := ContextStack.drop_attach hroom current
    rw [ContextStack.attach_of_room hroom] at hback
    rw [hcontexts, Agent.guard_attach, ContextStack.attach_of_room hroom]
    exact hback
  have hleft : r.1.context = r'.1.context := by
    rw [Agent.context, Agent.context, hcontexts, hcontexts']
  have hlog : r.2.record (.finished task r.1.context) =
      r'.2.record (.finished task r'.1.context) := by rw [hleft, hend.log]
  have hback : (r.1.dropGuard (f.agent.attach c).2).contexts = own.stack.above below := by
    rw [Agent.contexts_dropGuard, hdrop, h.left.contexts]
  have hagent : (r.1.dropGuard (f.agent.attach c).2).apart =
      ({ r'.1 with contexts := f'.agent.contexts } : Agent).apart := by
    rw [Agent.apart_dropGuard (by rw [hdrop]), hend.agent]
    rfl
  have hback' : ({ r'.1 with contexts := f'.agent.contexts } : Agent).contexts =
      own.stack.above below' := h.right.contexts
  exact h.revise (s := own.stack) h.own rfl hback hback' hagent hlog

/-- **A program does the same on the stack of the thread as on stacks apart.** -/
theorem Twin.runBy_eq {p : TaskProgram} (h : Twin below below' own f f') (hfits : f.Fits p) :
    SameEnd below below' (f.runBy Agent.pollWith p) (f'.runBy Agent.pollApart p) := by
  induction p generalizing below below' own f f' with
  | done => exact h.finish
  | act op rest ih =>
    obtain ⟨own', h'⟩ := h.step hfits.1
    exact ih h' hfits.2
  | poll task body rest ihBody ihRest =>
    rw [runBy, runBy, ← h.log]
    rw [Fits] at hfits
    cases hheld : f.log.held[task]? with
    | none =>
      rw [hheld] at hfits
      exact ihRest h hfits
    | some c =>
      rw [hheld] at hfits
      obtain ⟨hroom, hbody, hrest⟩ := hfits
      have hstart := h.start hroom task c
      rw [← h.log] at hstart
      have hend := ihBody hstart hbody
      exact ihRest (h.resume hroom task c hend).look hrest

end TaskFrame

/-! ### What tasks hold -/

/-- In these events every poll finds what its task holds then. -/
def TaskEvent.Consistent : Array Context → List TaskEvent → Prop
  | _, [] => True
  | held, e :: rest =>
    (∀ task found, e = started task found → held[task]? = some found) ∧
      Consistent (e.update held) rest

/-- One log goes on from another: every poll in between found what its task held then, and the tasks
hold what came of that. -/
def TaskLog.Continues (log log' : TaskLog) : Prop :=
  ∃ events, log'.events = log.events ++ events ∧
    log'.held = events.foldl TaskEvent.update log.held ∧ TaskEvent.Consistent log.held events

namespace TaskLog

theorem Continues.refl (log : TaskLog) : Continues log log :=
  ⟨[], (List.append_nil _).symm, rfl, trivial⟩

theorem consistent_append {held : Array Context} {first rest : List TaskEvent}
    (hfirst : TaskEvent.Consistent held first)
    (hrest : TaskEvent.Consistent (first.foldl TaskEvent.update held) rest) :
    TaskEvent.Consistent held (first ++ rest) := by
  induction first generalizing held with
  | nil => exact hrest
  | cons e first ih => exact ⟨hfirst.1, ih hfirst.2 hrest⟩

theorem Continues.trans {log log' log'' : TaskLog} (h : Continues log log')
    (h' : Continues log' log'') : Continues log log'' := by
  obtain ⟨events, hevents, hheld, hconsistent⟩ := h
  obtain ⟨events', hevents', hheld', hconsistent'⟩ := h'
  refine ⟨events ++ events', ?_, ?_, consistent_append hconsistent (hheld ▸ hconsistent')⟩
  · rw [hevents', hevents, List.append_assoc]
  · rw [hheld', hheld, List.foldl_append]

theorem Continues.record (log : TaskLog) {e : TaskEvent}
    (he : ∀ task found, e = .started task found → log.held[task]? = some found) :
    Continues log (log.record e) := ⟨[e], rfl, rfl, he, trivial⟩

end TaskLog

namespace TaskFrame

theorem continues_step (f : TaskFrame) (op : TaskOp) : f.log.Continues (f.step op).log := by
  have hperform : f.log.Continues (f.perform op).log := by
    cases op with
    | wrap c => exact .record _ nofun
    | wrapCurrent => exact .record _ nofun
    | dropGuard name =>
      have hlog : (f.perform (.dropGuard name)).log = f.log := by
        unfold perform
        dsimp only
        split <;> rfl
      rw [hlog]
      exact .refl _
    | _ => exact .refl _
  exact hperform.trans (.record _ nofun)

theorem continues_finish (f : TaskFrame) : f.log.Continues f.finish.log := by
  have hsteps (ops : List TaskOp) (f : TaskFrame) : f.log.Continues (ops.foldl step f).log := by
    induction ops generalizing f with
    | nil => exact .refl _
    | cons op rest ih => exact (f.continues_step op).trans (ih _)
  exact hsteps _ f

/-- Polls that run apart find what their tasks hold, since they are given nothing else. -/
theorem continues_runBy_pollApart (f : TaskFrame) (p : TaskProgram) :
    f.log.Continues (f.runBy Agent.pollApart p).2 := by
  induction p generalizing f with
  | done => exact f.continues_finish
  | act op rest ih => exact (f.continues_step op).trans (ih _)
  | poll task body rest ihBody ihRest =>
    rw [runBy]
    split
    · exact ihRest f
    · rename_i c hheld
      refine .trans ?_ (ihRest _)
      refine .trans ?_ (.record _ nofun)
      refine .trans ?_ (.record _ nofun)
      refine .trans (.record _ fun t found he => ?_) (ihBody _)
      cases he
      exact hheld

end TaskFrame

/-- **Tasks do not see each other's context.** Whatever runs on a thread, and in whatever order
tasks are polled, in each other too: as long as there is room on the stack,

* it comes to the same, in the agent and in all that is seen on the way, as if every poll had a
  stack of its own with nothing on it but the context of its task;
* every poll finds what its task holds, which is what the poll of it before has left, or what it was
  given;
* nothing more is saved afterwards than before. -/
theorem TaskProgram.run_apart (p : TaskProgram) (a : Agent) (log : TaskLog)
    (hlimit : a.contexts.saved.size < ContextStack.limit) (hfits : TaskFrame.Fits ⟨a, log, []⟩ p) :
    p.run a log = p.runApart a log ∧ log.Continues (p.run a log).2 ∧
      (p.run a log).1.contexts.saved = a.contexts.saved := by
  have hover : TaskFrame.Over a.contexts.saved (.onBase a.contexts.current) ⟨a, log, []⟩ :=
    ⟨by simp [ContextStack.above, GuardedStack.onBase], rfl, hlimit⟩
  have htwin : TaskFrame.Twin a.contexts.saved a.contexts.saved (.onBase a.contexts.current)
      ⟨a, log, []⟩ ⟨a, log, []⟩ := ⟨hover, hover, .onBase _, rfl, rfl, Nat.le_refl _⟩
  obtain ⟨⟨current, hcontexts, hcontexts'⟩, hagent, hlog⟩ := htwin.runBy_eq hfits
  have hsame : p.run a log = p.runApart a log :=
    Prod.ext (Agent.eq_of_apart hagent (hcontexts.trans hcontexts'.symm)) hlog
  refine ⟨hsame, ?_, congrArg (·.saved) hcontexts⟩
  rw [hsame]
  exact TaskFrame.continues_runBy_pollApart ⟨a, log, []⟩ p

/-- Two tasks that take turns, the first polled by the second too: each finds its own. -/
theorem TaskProgram.run_apart_turns :
    let a : Agent := { config := ⟨{}, 0⟩ }
    let begin : TaskOp := .beginTransaction
      { kind := "job", caller := some (.create (.ofNat 1) (.ofNat 9) true) }
    let p : TaskProgram :=
      .act (.wrap {}) <| .act (.wrap {}) <|
      .poll 0 (.act begin .done) <|
      .poll 1 (.act begin <| .act (.attach {}) <| .poll 0 .done .done) <|
      .poll 0 .done <| .poll 1 .done .done
    (p.run a {} = p.runApart a {} ∧ TaskLog.Continues {} (p.run a {}).2 ∧
      (p.run a {}).1.contexts.saved = a.contexts.saved) ∧
      (p.run a {}).2.events.filter (· matches .started ..) =
        [.started 0 {}, .started 1 {}, .started 0 ⟨some 0, none⟩, .started 0 ⟨some 0, none⟩,
          .started 1 ⟨some 1, none⟩] := by
  intro a begin p
  exact ⟨p.run_apart a {} (by decide) (by decide +kernel), by decide +kernel⟩

end Telemetry
