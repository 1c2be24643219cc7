import Mathlib.Data.List.Nodup
import Telemetry.ContextStack

/-!
# The contexts of a thread as a list of live guards

Seen from outside, what is current on a thread is a matter of guards alone: it is the context of
the newest guard that is still alive, or the base context if there is none. The stack that keeps
these contexts works otherwise. The current context lies apart from the saved ones, a guard that is
dropped out of turn leaves a gap, gaps at the end stay until a guard is dropped in turn, and
positions are given out again.

The two are related by a function, not only by a relation: `LiveContexts.toStack` is the one stack
that keeps a given list of live guards. Between the guard at position `p` and the next older one at
position `q` it saves the context of the older one at place `q`, and gaps above it up to `p`. Each
operation on the stack is then one equation.

## Main definitions

* `LiveContexts`: the base context and the live guards with their contexts.
* `LiveContexts.toStack`: the stack that keeps them.
* `ContextAction`, `GuardedStack`: a stack whose guards are handed out, and dropped at most once.

## Main results

* `LiveContexts.attach_toStack`, `LiveContexts.drop_toStack_newest`,
  `LiveContexts.drop_toStack_older`: one equation for each operation.
* `GuardedStack.Keeps.step`: the two sides stay together.
* `GuardedStack.run_keeps_live`: the refinement, for all runs.
-/

namespace Telemetry

/-! ### Live guards -/

/-- A guard that is alive: its name, which counts attachments, its position, and its context. -/
structure LiveGuard where
  name : Nat
  position : Nat
  context : Context

/-- The base context and the live guards, newest first. -/
structure LiveContexts where
  base : Context := {}
  live : List LiveGuard := []
  /-- How many times a context was attached, or was to be. -/
  attachments : Nat := 0

namespace LiveContexts

/-- The context of the newest guard, or the base context. -/
def currentOf (base : Context) : List LiveGuard → Context
  | [] => base
  | e :: _ => e.context

/-- The position of the newest guard; zero if there is none. -/
def top : List LiveGuard → Nat
  | [] => 0
  | e :: _ => e.position

/-- What is current. -/
def current (m : LiveContexts) : Context := currentOf m.base m.live

/-- Positions are positive and grow from older guards to newer ones. -/
def Stacked : List LiveGuard → Prop
  | [] => True
  | e :: older => top older < e.position ∧ Stacked older

/-- A guard of this name is alive at this position. -/
def LiveAt (m : LiveContexts) (name position : Nat) : Prop :=
  ∃ e ∈ m.live, e.name = name ∧ e.position = position

/-- A new guard goes right above the newest one, if there is room. -/
def attach (m : LiveContexts) (c : Context) : LiveContexts :=
  { m with
    live := if top m.live + 1 < ContextStack.limit then
      ⟨m.attachments, top m.live + 1, c⟩ :: m.live else m.live
    attachments := m.attachments + 1 }

/-- A guard dies, wherever it is. -/
def drop (m : LiveContexts) (name : Nat) : LiveContexts :=
  { m with live := m.live.eraseP (·.name = name) }

/-- What is current is changed in place. -/
def revise (m : LiveContexts) (f : Context → Context) : LiveContexts :=
  match m.live with
  | [] => { m with base := f m.base }
  | e :: older => { m with live := { e with context := f e.context } :: older }

theorem liveAt_revise (m : LiveContexts) (f : Context → Context) (name position : Nat) :
    (m.revise f).LiveAt name position ↔ m.LiveAt name position := by
  obtain ⟨base, live, n⟩ := m
  cases live <;> simp [LiveAt, revise]

theorem liveAt_attach (m : LiveContexts) (c : Context) (name position : Nat) :
    (m.attach c).LiveAt name position ↔ m.LiveAt name position ∨
      top m.live + 1 < ContextStack.limit ∧ name = m.attachments ∧ position = top m.live + 1 := by
  simp only [LiveAt, attach]
  split <;> simp [*, or_comm, eq_comm]

/-- Nothing happens at the death of a guard that is not there. -/
theorem drop_of_not_liveAt {m : LiveContexts} {name : Nat}
    (h : ∀ position, ¬ m.LiveAt name position) : m.drop name = m := by
  obtain ⟨base, live, n⟩ := m
  simp only [drop, LiveContexts.mk.injEq, true_and, and_true]
  refine List.eraseP_of_forall_not fun e he => ?_
  simpa using fun hname => h e.position ⟨e, he, hname, rfl⟩

/-! ### Positions -/

theorem Stacked.position_pos {e : LiveGuard} :
    ∀ {live : List LiveGuard}, Stacked live → e ∈ live → 0 < e.position
  | f :: older, h, he => by
    rcases List.mem_cons.mp he with rfl | he
    · exact Nat.lt_of_le_of_lt (Nat.zero_le _) h.1
    · exact Stacked.position_pos h.2 he

theorem Stacked.le_top {e : LiveGuard} :
    ∀ {live : List LiveGuard}, Stacked live → e ∈ live → e.position ≤ top live
  | f :: older, h, he => by
    rcases List.mem_cons.mp he with rfl | he
    · exact Nat.le_refl _
    · exact Nat.le_trans (Stacked.le_top h.2 he) (Nat.le_of_lt h.1)

/-- Positions tell live guards apart. -/
theorem Stacked.nodup : ∀ {live : List LiveGuard}, Stacked live → (live.map (·.position)).Nodup
  | [], _ => List.nodup_nil
  | e :: older, h => by
    refine List.nodup_cons.mpr ⟨fun hmem => ?_, Stacked.nodup h.2⟩
    obtain ⟨f, hf, heq : f.position = e.position⟩ := List.mem_map.mp hmem
    have hle := Stacked.le_top h.2 hf
    have hlt : top older < e.position := h.1
    omega

/-- A guard below others is below the newest one. -/
theorem Stacked.position_lt {g e : LiveGuard} {newer older : List LiveGuard}
    (h : Stacked (g :: newer ++ e :: older)) : e.position < g.position :=
  Nat.lt_of_le_of_lt (Stacked.le_top h.2 (by simp)) h.1

/-- Guards that are left out do not disturb the order of the others. -/
theorem Stacked.remove {e : LiveGuard} {older : List LiveGuard} :
    ∀ {newer : List LiveGuard}, Stacked (newer ++ e :: older) → Stacked (newer ++ older)
  | [], h => h.2
  | [_], h => ⟨Nat.lt_trans h.2.1 h.1, h.2.2⟩
  | _ :: g :: newer, h => ⟨h.1, @Stacked.remove e older (g :: newer) h.2⟩

theorem stacked_attach {m : LiveContexts} (h : Stacked m.live) (c : Context) :
    Stacked (m.attach c).live := by
  simp only [attach]
  split
  · exact ⟨Nat.lt_succ_self _, h⟩
  · exact h

theorem stacked_revise {m : LiveContexts} (h : Stacked m.live) (f : Context → Context) :
    Stacked (m.revise f).live := by
  obtain ⟨base, live, n⟩ := m
  cases live <;> exact h

/-! ### The stack that keeps them -/

/-- The saved contexts: each guard saves what was current before it, above what the older guards
have saved, and leaves gaps up to its own position. -/
def savedOf (base : Context) : List LiveGuard → List (Option Context)
  | [] => []
  | e :: older =>
    savedOf base older ++
      some (currentOf base older) :: List.replicate (e.position - top older - 1) none

/-- The stack that keeps the live contexts. -/
def toStack (m : LiveContexts) : ContextStack := ⟨m.current, (savedOf m.base m.live).toArray⟩

theorem length_savedOf (base : Context) :
    ∀ live : List LiveGuard, Stacked live → (savedOf base live).length = top live
  | [], _ => rfl
  | e :: older, h => by
    have hlt : top older < e.position := h.1
    change _ = e.position
    simp only [savedOf, List.length_append, length_savedOf base older h.2, List.length_cons,
      List.length_replicate]
    omega

theorem size_saved_toStack {m : LiveContexts} (h : Stacked m.live) :
    m.toStack.saved.size = top m.live := by
  simp [toStack, length_savedOf m.base m.live h]

/-- Dropping the newest guard pops its gaps, and what it had saved is current again. -/
theorem restore_toStack (base : Context) (e : LiveGuard) (older : List LiveGuard) (n : Nat) :
    (toStack ⟨base, e :: older, n⟩).restore = toStack ⟨base, older, n⟩ := by
  have hgaps : ∀ x ∈ List.replicate (e.position - top older - 1) (none : Option Context),
      x.isNone = true := by
    intro x hx
    rw [List.eq_of_mem_replicate hx]
    rfl
  simp [ContextStack.restore, toStack, savedOf, current, List.dropWhile_append_of_pos hgaps]

/-- Where a guard other than the newest dies, the place above it becomes a gap. -/
theorem savedOf_set_none (base : Context) (e : LiveGuard) (older : List LiveGuard) :
    ∀ {newer : List LiveGuard}, newer ≠ [] → Stacked (newer ++ e :: older) →
      (savedOf base (newer ++ e :: older)).set e.position none = savedOf base (newer ++ older)
  | [], h, _ => absurd rfl h
  | [f], _, h => by
    -- the guard right below the newest one: its context is the last one that is saved
    obtain ⟨hf : e.position < f.position, he : top older < e.position, hs⟩ := h
    have hlen : (savedOf base (e :: older)).length = e.position :=
      length_savedOf base (e :: older) ⟨he, hs⟩
    change (savedOf base (e :: older) ++
      some e.context :: List.replicate (f.position - e.position - 1) none).set e.position none = _
    rw [List.set_append_right _ _ (Nat.le_of_eq hlen), hlen, Nat.sub_self, List.set_cons_zero,
      ← List.replicate_succ]
    simp only [savedOf, List.nil_append, List.append_assoc, List.cons_append,
      List.replicate_append_replicate]
    congr 4
    omega
  | f :: g :: newer, _, h => by
    have hs : Stacked (g :: newer ++ e :: older) := h.2
    have hlt : e.position < (savedOf base (g :: newer ++ e :: older)).length := by
      rw [length_savedOf base _ hs]
      exact hs.position_lt
    have ih := savedOf_set_none base e older (List.cons_ne_nil g newer) hs
    simp only [List.cons_append] at ih hlt ⊢
    rw [savedOf, List.set_append_left _ _ hlt, ih]
    rfl

/-! ### One equation for each operation -/

@[simp] theorem setTransaction_toStack (m : LiveContexts) (t : Option TransactionRef) :
    m.toStack.setTransaction t =
      (m.revise fun c => ⟨t, if t.isNone then none else c.span⟩).toStack := by
  obtain ⟨base, live, n⟩ := m
  cases live <;> rfl

@[simp] theorem setSpan_toStack (m : LiveContexts) (span : Option SpanHandle) :
    m.toStack.setSpan span = (m.revise fun c => { c with span }).toStack := by
  obtain ⟨base, live, n⟩ := m
  cases live <;> rfl

/-- An attachment pushes what was current; without room nothing happens but a notice. -/
theorem attach_toStack {m : LiveContexts} (h : Stacked m.live) (c : Context) :
    (m.toStack.attach c).1 = (m.attach c).toStack ∧
      (m.toStack.attach c).2.1 =
        if top m.live + 1 < ContextStack.limit then ⟨top m.live + 1⟩ else ContextStack.refused := by
  simp only [ContextStack.attach, size_saved_toStack h]
  split
  next hroom =>
    refine ⟨?_, rfl⟩
    simp [attach, hroom, toStack, savedOf, current, currentOf]
  next hfull => exact ⟨by simp [attach, hfull, toStack, current], rfl⟩

theorem drop_toStack_newest {base : Context} {e : LiveGuard} {older : List LiveGuard} {n : Nat}
    (h : Stacked (e :: older)) (hlimit : e.position < ContextStack.limit) :
    (toStack ⟨base, e :: older, n⟩).drop ⟨e.position⟩ = (toStack ⟨base, older, n⟩, []) := by
  have hsize : (toStack ⟨base, e :: older, n⟩).saved.size = e.position := size_saved_toStack h
  have hpos : 0 < e.position := Nat.lt_of_le_of_lt (Nat.zero_le _) h.1
  rw [ContextStack.drop, if_neg (by simp only; omega), if_pos hsize.symm, restore_toStack]

theorem drop_toStack_older {base : Context} {f e : LiveGuard} {newer older : List LiveGuard}
    {n : Nat} (h : Stacked (f :: newer ++ e :: older)) (hpos : 0 < e.position)
    (hlimit : e.position < ContextStack.limit) :
    (toStack ⟨base, f :: newer ++ e :: older, n⟩).drop ⟨e.position⟩ =
      (toStack ⟨base, f :: newer ++ older, n⟩, []) := by
  have hsize : (toStack ⟨base, f :: newer ++ e :: older, n⟩).saved.size = f.position :=
    size_saved_toStack h
  have hlt : e.position < f.position := h.position_lt
  rw [ContextStack.drop, if_neg (by simp only; omega), if_neg (by simp only; omega),
    if_neg (by simp only; omega)]
  have hset := savedOf_set_none base e older (List.cons_ne_nil f newer) h
  simpa [toStack, current, currentOf] using hset

end LiveContexts

/-! ### A stack whose guards are handed out -/

/-- What happens to the contexts of a thread. Guards are named by the attachments they come from. -/
inductive ContextAction
  | attach (c : Context)
  | drop (name : Nat)
  | setTransaction (t : Option TransactionRef)
  | setSpan (span : Option SpanHandle)

/-- The contexts of a thread with the guards of its attachments, in order, each until it is
dropped. -/
structure GuardedStack where
  stack : ContextStack := {}
  guards : List (Option Guard) := []

namespace GuardedStack

/-- The guard has not been dropped. -/
def Alive (s : GuardedStack) (name : Nat) (g : Guard) : Prop := s.guards[name]? = some (some g)

/-- One step. A guard that was dropped before is not there to be dropped again. -/
def step (s : GuardedStack) : ContextAction → GuardedStack
  | .attach c => ⟨(s.stack.attach c).1, s.guards ++ [some (s.stack.attach c).2.1]⟩
  | .drop name =>
    match s.guards[name]? with
    | some (some g) => ⟨(s.stack.drop g).1, s.guards.set name none⟩
    | _ => s
  | .setTransaction t => { s with stack := s.stack.setTransaction t }
  | .setSpan span => { s with stack := s.stack.setSpan span }

/-- The steps of a thread in order, from a stack without guards. -/
def run (actions : List ContextAction) : GuardedStack := actions.foldl step {}

end GuardedStack

namespace LiveContexts

/-- One step, as live guards see it. -/
def step (m : LiveContexts) : ContextAction → LiveContexts
  | .attach c => m.attach c
  | .drop name => m.drop name
  | .setTransaction t => m.revise fun c => ⟨t, if t.isNone then none else c.span⟩
  | .setSpan span => m.revise fun c => { c with span }

/-- The steps in order, as live guards see them. -/
def run (actions : List ContextAction) : LiveContexts := actions.foldl step {}

end LiveContexts

namespace GuardedStack

/-- The stack is the one that keeps the live contexts, and the guards that were not dropped are the
live ones, apart from those of refused attachments. -/
structure Keeps (s : GuardedStack) (m : LiveContexts) : Prop where
  stack : s.stack = m.toStack
  stacked : LiveContexts.Stacked m.live
  below : ∀ {name position}, m.LiveAt name position → position < ContextStack.limit
  attachments : s.guards.length = m.attachments
  alive : ∀ {name position}, m.LiveAt name position → s.Alive name ⟨position⟩
  live : ∀ {name g}, s.Alive name g → g = ContextStack.refused ∨ m.LiveAt name g.position

theorem keeps_empty : Keeps {} {} where
  stack := rfl
  stacked := trivial
  below := by simp [LiveContexts.LiveAt]
  attachments := rfl
  alive := by simp [LiveContexts.LiveAt]
  live := by simp [Alive]

variable {s : GuardedStack} {m : LiveContexts} {name : Nat} {g : Guard}

theorem Alive.unique {g' : Guard} (h : s.Alive name g) (h' : s.Alive name g') : g = g' := by
  have hsame : some (some g) = some (some g') := h.symm.trans h'
  simpa using hsame

/-- The guard of a refused attachment is not among the live ones. -/
theorem Keeps.not_liveAt_of_refused (h : Keeps s m) (ha : s.Alive name ContextStack.refused)
    (position : Nat) : ¬ m.LiveAt name position := by
  intro hlive
  obtain rfl : position = ContextStack.limit :=
    congrArg Guard.position ((h.alive hlive).unique ha)
  exact Nat.lt_irrefl _ (h.below hlive)

/-- Any other guard that was not dropped is somewhere among the live ones. -/
theorem Keeps.exists_split (h : Keeps s m) (ha : s.Alive name g) (hg : g ≠ ContextStack.refused) :
    ∃ newer e older, m.live = newer ++ e :: older ∧ e.name = name ∧ e.position = g.position ∧
      (m.drop name).live = newer ++ older := by
  obtain ⟨f, hf, hname, -⟩ : m.LiveAt name g.position := (h.live ha).resolve_left hg
  obtain ⟨e, newer, older, -, he, hsplit, herase⟩ :=
    List.exists_of_eraseP (p := (·.name = name)) hf (by simpa using hname)
  have hmem : e ∈ m.live := by simp [hsplit]
  have hename : e.name = name := by simpa using he
  have halive : s.Alive name ⟨e.position⟩ := h.alive ⟨e, hmem, hename, rfl⟩
  exact ⟨newer, e, older, hsplit, hename, congrArg Guard.position (halive.unique ha), herase⟩

/-- **Dropping a guard**, whichever it is, takes it out of the live ones, silently. -/
theorem Keeps.drop_eq (h : Keeps s m) (ha : s.Alive name g) :
    s.stack.drop g = ((m.drop name).toStack, []) := by
  rw [h.stack]
  by_cases hg : g = ContextStack.refused
  · subst hg
    rw [LiveContexts.drop_of_not_liveAt (h.not_liveAt_of_refused ha)]
    rfl
  · obtain ⟨newer, e, older, hsplit, -, hposition, herase⟩ := h.exists_split ha hg
    have hmem : e ∈ m.live := by simp [hsplit]
    have hpos := h.stacked.position_pos hmem
    have hbelow := h.below ⟨e, hmem, rfl, rfl⟩
    have hstacked := h.stacked
    obtain rfl : g = ⟨e.position⟩ := by rw [hposition]
    obtain ⟨base, live, n⟩ := m
    simp only [LiveContexts.drop] at hsplit herase hstacked ⊢
    rw [herase]
    subst hsplit
    cases newer with
    | nil => exact LiveContexts.drop_toStack_newest hstacked hbelow
    | cons f newer => exact LiveContexts.drop_toStack_older hstacked hpos hbelow

theorem Keeps.attach (h : Keeps s m) (c : Context) :
    Keeps (s.step (.attach c)) (m.step (.attach c)) := by
  have hattach := LiveContexts.attach_toStack h.stacked c
  rw [← h.stack] at hattach
  have hold : ∀ {name g}, s.Alive name g → (s.step (.attach c)).Alive name g := fun ha =>
    (List.getElem?_append_left (List.getElem?_eq_some_iff.mp ha).1).trans ha
  refine
    { stack := hattach.1
      stacked := LiveContexts.stacked_attach h.stacked c
      below := fun hlive => ?_
      attachments := by simp [step, LiveContexts.step, LiveContexts.attach, h.attachments]
      alive := fun hlive => ?_
      live := fun {name g} ha => ?_ }
  · rcases (LiveContexts.liveAt_attach m c _ _).mp hlive with hlive | ⟨hroom, -, rfl⟩
    · exact h.below hlive
    · exact hroom
  · rcases (LiveContexts.liveAt_attach m c _ _).mp hlive with hlive | ⟨hroom, rfl, rfl⟩
    · exact hold (h.alive hlive)
    · simp [Alive, step, ← h.attachments, hattach.2, hroom]
  · simp only [Alive, step, List.getElem?_append] at ha
    split at ha
    next hlt =>
      exact (h.live ha).imp_right fun hlive => (LiveContexts.liveAt_attach m c _ _).mpr (.inl hlive)
    next hge =>
      -- the name is that of the new guard, which is the refused one unless there was room
      obtain ⟨hzero, rfl⟩ : name - s.guards.length = 0 ∧ (s.stack.attach c).2.1 = g := by
        simpa [List.getElem?_singleton] using ha
      rw [hattach.2]
      split
      next hroom =>
        refine .inr ((LiveContexts.liveAt_attach m c _ _).mpr (.inr ⟨hroom, ?_, rfl⟩))
        have := h.attachments
        omega
      next => exact .inl rfl

theorem Keeps.liveAt_drop (h : Keeps s m) (ha : s.Alive name g) (n position : Nat) :
    (m.drop name).LiveAt n position ↔ m.LiveAt n position ∧ n ≠ name := by
  by_cases hg : g = ContextStack.refused
  · subst hg
    have hnone := h.not_liveAt_of_refused ha
    rw [LiveContexts.drop_of_not_liveAt hnone]
    exact ⟨fun hlive => ⟨hlive, fun hn => hnone position (hn ▸ hlive)⟩, And.left⟩
  · obtain ⟨newer, e, older, hsplit, rfl, hposition, herase⟩ := h.exists_split ha hg
    simp only [LiveContexts.LiveAt, herase, hsplit]
    constructor
    · rintro ⟨f, hf, rfl, rfl⟩
      have hmem : f ∈ newer ++ e :: older := by
        simp only [List.mem_append, List.mem_cons] at hf ⊢
        exact hf.imp_right .inr
      refine ⟨⟨f, hmem, rfl, rfl⟩, fun hname => ?_⟩
      -- two live guards of one name are at one position, which only one guard is
      have hsame : f.position = e.position := by
        have halive : s.Alive e.name ⟨f.position⟩ := h.alive ⟨f, hsplit ▸ hmem, hname, rfl⟩
        rw [hposition]
        exact congrArg Guard.position (halive.unique ha)
      have hnodup := h.stacked.nodup
      rw [hsplit, List.map_append, List.map_cons, List.nodup_middle, ← List.map_append] at hnodup
      exact (List.nodup_cons.mp hnodup).1 (hsame ▸ List.mem_map_of_mem hf)
    · rintro ⟨⟨f, hf, rfl, rfl⟩, hname⟩
      refine ⟨f, ?_, rfl, rfl⟩
      simp only [List.mem_append, List.mem_cons] at hf ⊢
      rcases hf with hf | rfl | hf
      · exact .inl hf
      · exact absurd rfl hname
      · exact .inr hf

theorem Keeps.stacked_drop (h : Keeps s m) (ha : s.Alive name g) :
    LiveContexts.Stacked (m.drop name).live := by
  by_cases hg : g = ContextStack.refused
  · subst hg
    rw [LiveContexts.drop_of_not_liveAt (h.not_liveAt_of_refused ha)]
    exact h.stacked
  · obtain ⟨newer, e, older, hsplit, -, -, herase⟩ := h.exists_split ha hg
    rw [herase]
    exact (hsplit ▸ h.stacked).remove

/-- Dropping what is no guard, or no guard any more, changes nothing. -/
theorem Keeps.drop_of_not_alive (h : Keeps s m) (hdead : ∀ g, ¬ s.Alive name g) :
    Keeps (s.step (.drop name)) (m.step (.drop name)) := by
  have hlive : ∀ position, ¬ m.LiveAt name position := fun _ hlive => hdead _ (h.alive hlive)
  have hm : m.step (.drop name) = m := LiveContexts.drop_of_not_liveAt hlive
  have hs : s.step (.drop name) = s := by
    unfold step
    dsimp only
    split
    next g hg => exact absurd hg (hdead g)
    next => rfl
  rwa [hs, hm]

theorem Keeps.drop (h : Keeps s m) (name : Nat) :
    Keeps (s.step (.drop name)) (m.step (.drop name)) := by
  cases hguard : s.guards[name]? with
  | none => exact h.drop_of_not_alive fun g hg => nomatch hguard.symm.trans hg
  | some guard =>
    cases guard with
    | none => exact h.drop_of_not_alive fun g hg => nomatch hguard.symm.trans hg
    | some g =>
      have ha : s.Alive name g := hguard
      have halive : ∀ {n g'}, (s.step (.drop name)).Alive n g' ↔ s.Alive n g' ∧ n ≠ name := by
        intro n g'
        simp only [Alive, step, hguard, List.getElem?_set]
        split <;> simp_all [eq_comm]
      exact
        { stack := by simp only [step, hguard, h.drop_eq ha, LiveContexts.step]
          stacked := h.stacked_drop ha
          below := fun hlive => h.below ((h.liveAt_drop ha _ _).mp hlive).1
          attachments := by
            simpa [step, hguard, LiveContexts.step, LiveContexts.drop] using h.attachments
          alive := fun hlive =>
            have hboth := (h.liveAt_drop ha _ _).mp hlive
            halive.mpr ⟨h.alive hboth.1, hboth.2⟩
          live := fun hdropped =>
            have hboth := halive.mp hdropped
            (h.live hboth.1).imp_right fun hlive => (h.liveAt_drop ha _ _).mpr ⟨hlive, hboth.2⟩ }

theorem Keeps.revise (h : Keeps s m) (f : Context → Context) :
    Keeps ⟨(m.revise f).toStack, s.guards⟩ (m.revise f) where
  stack := rfl
  stacked := LiveContexts.stacked_revise h.stacked f
  below := fun hlive => h.below ((LiveContexts.liveAt_revise m f _ _).mp hlive)
  attachments := by
    obtain ⟨base, live, n⟩ := m
    cases live <;> exact h.attachments
  alive := fun hlive => h.alive ((LiveContexts.liveAt_revise m f _ _).mp hlive)
  live := fun ha => (h.live ha).imp_right (LiveContexts.liveAt_revise m f _ _).mpr

/-- **The two sides stay together.** -/
theorem Keeps.step (h : Keeps s m) (a : ContextAction) : Keeps (s.step a) (m.step a) := by
  cases a with
  | attach c => exact h.attach c
  | drop name => exact h.drop name
  | setTransaction t =>
    have hrevise := h.revise fun c => ⟨t, if t.isNone then none else c.span⟩
    rw [← LiveContexts.setTransaction_toStack, ← h.stack] at hrevise
    exact hrevise
  | setSpan span =>
    have hrevise := h.revise fun c => { c with span }
    rw [← LiveContexts.setSpan_toStack, ← h.stack] at hrevise
    exact hrevise

theorem Keeps.foldl (h : Keeps s m) (actions : List ContextAction) :
    Keeps (actions.foldl GuardedStack.step s) (actions.foldl LiveContexts.step m) := by
  induction actions generalizing s m with
  | nil => exact h
  | cons a rest ih => exact ih (h.step a)

theorem Keeps.liveAt_iff (h : Keeps s m) :
    m.LiveAt name g.position ↔ s.Alive name g ∧ g ≠ ContextStack.refused := by
  constructor
  · intro hlive
    have hbelow := h.below hlive
    refine ⟨h.alive hlive, ?_⟩
    rintro rfl
    exact Nat.lt_irrefl _ hbelow
  · rintro ⟨ha, hg⟩
    exact (h.live ha).resolve_left hg

/-- Positions tell the guards apart that were not dropped. -/
theorem Keeps.name_unique {name' : Nat} (h : Keeps s m) (ha : s.Alive name g)
    (ha' : s.Alive name' g) (hg : g ≠ ContextStack.refused) : name = name' := by
  obtain ⟨e, he, rfl, hposition⟩ := h.liveAt_iff.mpr ⟨ha, hg⟩
  obtain ⟨f, hf, rfl, hposition'⟩ := h.liveAt_iff.mpr ⟨ha', hg⟩
  rw [List.inj_on_of_nodup_map h.stacked.nodup he hf (hposition.trans hposition'.symm)]

/-- Dropping a guard that is not the newest live one does not change what is current. -/
theorem Keeps.current_drop_of_ne (h : Keeps s m) (ha : s.Alive name g)
    (hname : ∀ e ∈ m.live.head?, e.name ≠ name) :
    (s.stack.drop g).1.current = s.stack.current := by
  rw [h.drop_eq ha, h.stack]
  obtain ⟨base, live, n⟩ := m
  cases live with
  | nil => rfl
  | cons e older =>
    have hne : e.name ≠ name := hname e rfl
    simp [LiveContexts.drop, LiveContexts.toStack, LiveContexts.current, LiveContexts.currentOf,
      hne]

/-- An attachment is refused exactly where the newest live guard is at the last position. -/
theorem Keeps.attach_eq_refused_iff (h : Keeps s m) (c : Context) :
    (s.stack.attach c).2.1 = ContextStack.refused ↔
      ContextStack.limit ≤ LiveContexts.top m.live + 1 := by
  rw [h.stack, (LiveContexts.attach_toStack h.stacked c).2]
  split <;> simp [ContextStack.refused] <;> omega

/-- **The stack refines the list of live guards.** After any sequence of attachments, drops and
changes in place:

* what is current is the context of the newest live guard, as it was last changed in place, or the
  base context;
* the live guards are those that were handed out by an attachment that was not refused and have not
  been dropped, and no two of them share a position;
* dropping a guard is silent, so none refers to a place that does not exist, and if it is not the
  newest live one, what is current stays;
* without live guards nothing is saved;
* an attachment is refused exactly where the newest live guard is at the last position, and then
  neither it nor its guard changes anything. -/
theorem run_keeps_live (actions : List ContextAction) :
    (run actions).stack.current = (LiveContexts.run actions).current ∧
    (∀ name g, (LiveContexts.run actions).LiveAt name g.position ↔
      (run actions).Alive name g ∧ g ≠ ContextStack.refused) ∧
    (∀ name name' g, (run actions).Alive name g → (run actions).Alive name' g →
      g ≠ ContextStack.refused → name = name') ∧
    (∀ name g, (run actions).Alive name g → ((run actions).stack.drop g).2 = [] ∧
      ((∀ e ∈ (LiveContexts.run actions).live.head?, e.name ≠ name) →
        ((run actions).stack.drop g).1.current = (run actions).stack.current)) ∧
    ((LiveContexts.run actions).live = [] → (run actions).stack.saved = #[]) ∧
    (∀ c, ((run actions).stack.attach c).2.1 = ContextStack.refused ↔
      ContextStack.limit ≤ LiveContexts.top (LiveContexts.run actions).live + 1) ∧
    (∀ c, ((run actions).stack.attach c).2.1 = ContextStack.refused →
      ((run actions).stack.attach c).1 = (run actions).stack ∧
        ∀ s : ContextStack, s.drop ContextStack.refused = (s, [])) := by
  have h : Keeps (run actions) (LiveContexts.run actions) := keeps_empty.foldl actions
  refine ⟨by rw [h.stack]; rfl, fun _ _ => h.liveAt_iff, fun _ _ _ => h.name_unique,
    fun _ _ ha => ⟨by rw [h.drop_eq ha], h.current_drop_of_ne ha⟩, fun hnone => ?_,
    h.attach_eq_refused_iff, fun c hrefused => ⟨?_, fun _ => rfl⟩⟩
  · rw [h.stack, LiveContexts.toStack, hnone]
    rfl
  · have hfull := (h.attach_eq_refused_iff c).mp hrefused
    rw [h.stack, (LiveContexts.attach_toStack h.stacked c).1]
    simp [LiveContexts.attach, Nat.not_lt.mpr hfull, LiveContexts.toStack, LiveContexts.current]

end GuardedStack

end Telemetry
