import Mathlib.Algebra.Ring.Nat
import Mathlib.Data.List.Forall2
import Telemetry.Compression

/-!
# A buffer cuts its input into runs

What a compression buffer does is to cut the sequence of spans that are offered to it into
consecutive runs, and to pass each run on as one span. Nothing is lost, nothing is passed on twice,
and the order is kept.

What becomes of a run is a relation between spans and runs. If a span without a composite has it to
itself, and if it lasts while spans are merged, then the buffer never breaks it: every step passes
on whole runs, and leaves at most one behind in the slot. So the induction is made once, for any
such relation.

Spans are offered without a composite, as they are when they end. Sums of durations are exact here,
so no hypothesis about a clock is needed.

## Main definitions

* `FinishedSpan.StandsFor`: a span is what became of a run.
* `FinishedSpan.LastsInMerging`: a relation that merging does not break.
* `CompressionBuffer.Action`, `CompressionBuffer.run`, `CompressionBuffer.offered`.
* `CompressionBuffer.Proper`: what is known of every buffer.

## Main results

* `FinishedSpan.StandsFor.absorb`: merging one more span prolongs the run by that span.
* `CompressionBuffer.exists_runs_step`, `CompressionBuffer.exists_runs`: a buffer cuts its input
  into runs, for one step and for all.
* `CompressionBuffer.run_segments`: the segmentation, for all runs.
-/

namespace Telemetry

/-! ### What became of a run -/

namespace FinishedSpan

/-- The span is what became of a run. -/
structure StandsFor (s : FinishedSpan) (run : List FinishedSpan) : Prop where
  /-- It is the first member, apart from the name, the duration and the composite. -/
  first : ∃ m, run.head? = some m ∧ s = { m with
    record := { m.record with name := s.record.name, duration := s.record.duration }
    composite := s.composite }
  /-- The only member of a run comes out as it was offered. -/
  alone : run.length = 1 → run = [s]
  /-- All members are counted. -/
  count : s.count = run.length
  /-- The durations of several members are added up. -/
  sum : 2 ≤ run.length → ∃ c, s.composite = some c ∧ c.sum = (run.map (·.record.duration)).sum
  /-- What is reported shows a composite exactly where there are several members. -/
  reported : s.toRecord.composite.isSome ↔ 2 ≤ run.length

theorem StandsFor.length_pos {s : FinishedSpan} {run : List FinishedSpan} (h : s.StandsFor run) :
    0 < run.length := by
  obtain ⟨m, hm, -⟩ := h.first
  cases run with
  | nil => simp at hm
  | cons m rest => simp

theorem ne_nil_of_standsFor {out : List FinishedSpan} {runs : List (List FinishedSpan)}
    (h : List.Forall₂ StandsFor out runs) : ∀ r ∈ runs, r ≠ [] := by
  induction h with
  | nil => exact nofun
  | cons hs _ ih => exact List.forall_mem_cons.mpr ⟨List.ne_nil_of_length_pos hs.length_pos, ih⟩

/-- A span without a composite stands for itself. -/
theorem standsFor_singleton {s : FinishedSpan} (plain : s.composite = none) : s.StandsFor [s] where
  first := ⟨s, rfl, rfl⟩
  alone := fun _ => rfl
  count := by simp [FinishedSpan.count, plain]
  sum := fun h => absurd h (by simp)
  reported := by simp [toRecord, plain]

/-- The time that a span stands for is that of its members together. -/
theorem StandsFor.total_eq {s : FinishedSpan} {run : List FinishedSpan} (h : s.StandsFor run)
    (plain : ∀ m ∈ run, m.composite = none) : s.total = (run.map (·.record.duration)).sum := by
  have hpos := h.length_pos
  rcases Nat.lt_or_ge 1 run.length with hlen | hlen
  · obtain ⟨c, hc, hsum⟩ := h.sum hlen
    simp only [total, hc, hsum]
  · have hrun : run = [s] := h.alone (by omega)
    have hs : s.composite = none := plain s (by simp [hrun])
    simp [hrun, total, hs]

/-- **Merging prolongs the run.** -/
theorem StandsFor.absorb {s child : FinishedSpan} {run : List FinishedSpan}
    (h : s.StandsFor run) (plain : ∀ m ∈ run, m.composite = none)
    (strategy : CompressionStrategy) : (s.absorb child strategy).StandsFor (run ++ [child]) := by
  have hpos := h.length_pos
  have hcount := h.count
  refine
    { first := ?_
      alone := fun hlen => ?_
      count := ?_
      sum := fun _ => ⟨_, rfl, ?_⟩
      reported := ?_ }
  · obtain ⟨m, hm, heq⟩ := h.first
    refine ⟨m, by simp [List.head?_append, hm], ?_⟩
    rw [heq]
    rfl
  · rw [List.length_append, List.length_singleton] at hlen
    omega
  · simpa [FinishedSpan.count, FinishedSpan.absorb] using hcount
  · simp only [h.total_eq plain, List.map_append, List.sum_append, List.map_cons, List.map_nil,
      List.sum_singleton]
  · have hone : 0 < s.count := by omega
    simp [toRecord, FinishedSpan.absorb, Nat.succ_le_iff, hpos, hone]

/-- A span without a composite has the relation to itself, and the relation lasts while spans that
match are merged. -/
structure LastsInMerging (settings : CompressionSettings)
    (P : FinishedSpan → List FinishedSpan → Prop) : Prop where
  alone : ∀ {m : FinishedSpan}, m.composite = none → P m [m]
  absorb : ∀ {s child : FinishedSpan} {strategy : CompressionStrategy} {run : List FinishedSpan},
    P s run → s.eligible = true → child.composite = none → child.eligible = true →
    s.strategyFor settings child = some strategy → P (s.absorb child strategy) (run ++ [child])

theorem lastsInMerging_standsFor (settings : CompressionSettings) :
    LastsInMerging settings fun s run => s.StandsFor run ∧ ∀ m ∈ run, m.composite = none where
  alone := fun plain => ⟨standsFor_singleton plain, by simpa using plain⟩
  absorb := fun h _ hchild _ _ =>
    ⟨h.1.absorb h.2 _, List.forall_mem_append.mpr ⟨h.2, by simpa using hchild⟩⟩

@[simp] theorem eligible_absorb (s child : FinishedSpan) (strategy : CompressionStrategy) :
    (s.absorb child strategy).eligible = s.eligible := rfl

end FinishedSpan

/-! ### Runs of a buffer -/

namespace CompressionBuffer

/-- What an offer can do: a closed buffer stays as it is; the child passes through behind what is
held; it takes the place of what is held; or it is merged into it. -/
theorem offer_cases (settings : CompressionSettings) (b : CompressionBuffer)
    (child : FinishedSpan) :
    (b.closed = true ∧ b.offer settings child = (b, [child])) ∨
    b.offer settings child = ({ b with slot := none }, b.slot.toList ++ [child]) ∨
    (child.eligible = true ∧
      b.offer settings child = ({ b with slot := some child }, b.slot.toList)) ∨
    ∃ s strategy, child.eligible = true ∧ b.slot = some s ∧
      s.strategyFor settings child = some strategy ∧
      b.offer settings child = ({ b with slot := some (s.absorb child strategy) }, []) := by
  by_cases hc : b.closed = true
  · exact .inl ⟨hc, by simp [offer, hc]⟩
  refine .inr ?_
  by_cases he : (!settings.enabled || !child.eligible) = true
  · exact .inl (by simp [offer, hc, he])
  have heligible : child.eligible = true := by simp_all
  refine .inr ?_
  cases hs : b.slot with
  | none => exact .inl ⟨heligible, by simp [offer, hc, he, hs]⟩
  | some s =>
    cases hst : s.strategyFor settings child with
    | none => exact .inl ⟨heligible, by simp [offer, hc, he, hs, hst]⟩
    | some strategy =>
      exact .inr ⟨s, strategy, heligible, rfl, hst, by simp [offer, hc, he, hs, hst]⟩

/-- What happens to a buffer. -/
inductive Action
  | offer (child : FinishedSpan)
  | close

/-- One step of a buffer, with the spans that it passes on. -/
def step (settings : CompressionSettings) (b : CompressionBuffer) :
    Action → CompressionBuffer × List FinishedSpan
  | .offer child => b.offer settings child
  | .close => (b.close.1, b.close.2.toList)

/-- The steps of a buffer in order, with the spans that it passes on altogether. -/
def run (settings : CompressionSettings) (b : CompressionBuffer) :
    List Action → CompressionBuffer × List FinishedSpan
  | [] => (b, [])
  | a :: rest =>
    let (b, first) := b.step settings a
    let (b, later) := b.run settings rest
    (b, first ++ later)

/-- The spans that are offered, in order. -/
def offered : List Action → List FinishedSpan
  | [] => []
  | .offer child :: rest => child :: offered rest
  | .close :: rest => offered rest

@[simp] theorem closed_offer (settings : CompressionSettings) (b : CompressionBuffer)
    (child : FinishedSpan) : (b.offer settings child).1.closed = b.closed := by
  rcases b.offer_cases settings child with
    ⟨-, heq⟩ | heq | ⟨-, heq⟩ | ⟨s, strategy, -, -, -, heq⟩ <;> rw [heq]

/-- Only spans that may be merged are kept. -/
theorem eligible_offer {b : CompressionBuffer} (h : ∀ s ∈ b.slot, s.eligible = true)
    (settings : CompressionSettings) (child : FinishedSpan) :
    ∀ s ∈ (b.offer settings child).1.slot, s.eligible = true := by
  rcases b.offer_cases settings child with
    ⟨-, heq⟩ | heq | ⟨he, heq⟩ | ⟨s, strategy, -, hs, -, heq⟩ <;> rw [heq]
  · exact h
  · simp
  · simpa using he
  · simpa using h s hs

/-- What is known of a buffer whatever happens to it: a closed one holds nothing, and what is held
may be merged. -/
structure Proper (b : CompressionBuffer) : Prop where
  closed : b.closed = true → b.slot = none
  eligible : ∀ s ∈ b.slot, s.eligible = true

theorem proper_empty : Proper {} where
  closed := fun _ => rfl
  eligible := by simp

theorem Proper.step {b : CompressionBuffer} (h : b.Proper) (settings : CompressionSettings)
    (a : Action) : (b.step settings a).1.Proper := by
  cases a with
  | close => exact ⟨fun _ => rfl, by simp [CompressionBuffer.step, close]⟩
  | offer child =>
    refine ⟨fun ha => ?_, eligible_offer h.eligible settings child⟩
    have hc : b.closed = true := (closed_offer settings b child).symm.trans ha
    simp only [CompressionBuffer.step, offer, hc, if_true, h.closed hc]

theorem Proper.run (settings : CompressionSettings) {actions : List Action} :
    ∀ {b : CompressionBuffer}, b.Proper → (b.run settings actions).1.Proper := by
  induction actions with
  | nil => exact fun h => h
  | cons a rest ih => exact fun h => ih (h.step settings a)

/-- What corresponds to two lists together corresponds to each of them. -/
theorem exists_append_of_forall₂_append {α β : Type} {R : α → β → Prop} {l₁ l₂ : List α}
    {l : List β} (h : List.Forall₂ R (l₁ ++ l₂) l) :
    ∃ k₁ k₂, List.Forall₂ R l₁ k₁ ∧ List.Forall₂ R l₂ k₂ ∧ l = k₁ ++ k₂ := by
  refine ⟨l.take l₁.length, l.drop l₁.length, ?_, ?_, (List.take_append_drop _ l).symm⟩
  · exact List.Forall₂.flip (List.forall₂_take_append _ _ _ h.flip)
  · exact List.Forall₂.flip (List.forall₂_drop_append _ _ _ h.flip)

section Cutting

variable {settings : CompressionSettings} {P : FinishedSpan → List FinishedSpan → Prop}

/-- One step passes on what was held as whole runs, and holds the rest. -/
theorem exists_runs_step (hP : FinishedSpan.LastsInMerging settings P) {b : CompressionBuffer}
    (hproper : b.Proper) {runs : List (List FinishedSpan)} (h : List.Forall₂ P b.slot.toList runs)
    (a : Action) (ha : ∀ m ∈ offered [a], m.composite = none) :
    ∃ runs', runs'.flatten = runs.flatten ++ offered [a] ∧
      List.Forall₂ P ((b.step settings a).2 ++ (b.step settings a).1.slot.toList) runs' := by
  cases a with
  | close => exact ⟨runs, by simp [offered], by simpa [step, close] using h⟩
  | offer child =>
    have hchild : child.composite = none := ha child (List.mem_singleton_self child)
    have hself : List.Forall₂ P [child] [[child]] := .cons (hP.alone hchild) .nil
    have hbehind := List.rel_append h hself
    have hflat : (runs ++ [[child]]).flatten = runs.flatten ++ [child] := by simp
    simp only [step, offered]
    rcases b.offer_cases settings child with
      ⟨hc, heq⟩ | heq | ⟨-, heq⟩ | ⟨s, strategy, he, hs, hstrategy, heq⟩ <;> rw [heq]
    · -- a closed buffer holds nothing, so the child is all there is to pass on
      rw [hproper.closed hc] at hbehind ⊢
      exact ⟨runs ++ [[child]], hflat, hbehind⟩
    · exact ⟨runs ++ [[child]], hflat, by simpa using hbehind⟩
    · exact ⟨runs ++ [[child]], hflat, hbehind⟩
    · rw [hs] at h
      obtain _ | ⟨hrun, _ | _⟩ := h
      exact ⟨[_], by simp, .cons (hP.absorb hrun (hproper.eligible s hs) hchild he hstrategy) .nil⟩

/-- A buffer is closed once it was closed. -/
theorem closed_step (settings : CompressionSettings) (b : CompressionBuffer) (a : Action) :
    (b.step settings a).1.closed = true ↔ b.closed = true ∨ a = .close := by
  cases a with
  | close => simp [step, close]
  | offer child => simp [step]

theorem offered_cons (a : Action) (rest : List Action) :
    offered (a :: rest) = offered [a] ++ offered rest := by
  cases a <;> rfl

/-- **A buffer cuts its input into runs.** What is held in the end is the last of them. -/
theorem exists_runs (hP : FinishedSpan.LastsInMerging settings P) {actions : List Action} :
    ∀ {b : CompressionBuffer} {runs : List (List FinishedSpan)}, b.Proper →
      List.Forall₂ P b.slot.toList runs → (∀ m ∈ offered actions, m.composite = none) →
      ∃ runs', runs'.flatten = runs.flatten ++ offered actions ∧
        List.Forall₂ P ((b.run settings actions).2 ++ (b.run settings actions).1.slot.toList)
          runs' := by
  induction actions with
  | nil => exact fun {_ runs} _ h _ => ⟨runs, by simp [offered], h⟩
  | cons a rest ih =>
    intro b runs hproper h plain
    rw [offered_cons] at plain
    obtain ⟨hhead, htail⟩ := List.forall_mem_append.mp plain
    obtain ⟨runs₁, hflat₁, h₁⟩ := exists_runs_step hP hproper h a hhead
    -- the runs that were passed on are settled; what is held goes on
    obtain ⟨passed, held, hpassed, hheld, rfl⟩ := exists_append_of_forall₂_append h₁
    obtain ⟨runs₂, hflat₂, h₂⟩ := ih (hproper.step settings a) hheld htail
    refine ⟨passed ++ runs₂, ?_, ?_⟩
    · rw [List.flatten_append, hflat₂, ← List.append_assoc, ← List.flatten_append, hflat₁,
        List.append_assoc, ← offered_cons]
    · simpa only [run, List.append_assoc] using List.rel_append hpassed h₂

end Cutting

theorem closed_run (settings : CompressionSettings) (actions : List Action) :
    ∀ b : CompressionBuffer,
      (b.run settings actions).1.closed = true ↔ b.closed = true ∨ .close ∈ actions := by
  induction actions with
  | nil => intro b; simp [run]
  | cons a rest ih =>
    intro b
    rw [show (b.run settings (a :: rest)).1 = ((b.step settings a).1.run settings rest).1 from rfl,
      ih, closed_step, List.mem_cons, or_assoc, eq_comm (a := Action.close)]

/-- Where nothing is held and nothing may be held, what is offered comes out at once. -/
theorem offer_of_passing {settings : CompressionSettings} {b : CompressionBuffer}
    (hslot : b.slot = none) (hpass : settings.enabled = false ∨ b.closed = true)
    (child : FinishedSpan) : b.offer settings child = (b, [child]) := by
  obtain ⟨slot, closed⟩ := b
  subst hslot
  cases closed with
  | true => rfl
  | false =>
    have he : settings.enabled = false := by simpa using hpass
    simp [offer, he]

theorem run_of_passing {settings : CompressionSettings} {actions : List Action} :
    ∀ {b : CompressionBuffer}, b.slot = none → settings.enabled = false ∨ b.closed = true →
      (b.run settings actions).1.slot = none ∧ (b.run settings actions).2 = offered actions := by
  induction actions with
  | nil => exact fun hslot _ => ⟨hslot, rfl⟩
  | cons a rest ih =>
    intro b hslot hpass
    cases a with
    | offer child =>
      simp only [run, step, offer_of_passing hslot hpass, offered, List.singleton_append]
      exact ⟨(ih hslot hpass).1, congrArg (child :: ·) (ih hslot hpass).2⟩
    | close =>
      simp only [run, step, close, hslot, Option.toList_none, List.nil_append, offered]
      exact ih rfl (.inr rfl)

/-- **The segmentation.** What a buffer passed on, followed by what it holds, stands one by one for
consecutive runs of what it was offered.

Every state of a buffer is the end of some run from the empty one, so the other clauses speak of
all reachable states: a closed buffer holds nothing, and where compression is switched off, or once
the buffer was closed, each span that is offered comes out at once and alone. -/
theorem run_segments {settings : CompressionSettings} {actions : List Action}
    {b : CompressionBuffer} {out : List FinishedSpan}
    (hrun : ({} : CompressionBuffer).run settings actions = (b, out))
    (plain : ∀ m ∈ offered actions, m.composite = none) :
    (∃ runs : List (List FinishedSpan), runs.flatten = offered actions ∧ (∀ r ∈ runs, r ≠ []) ∧
      List.Forall₂ FinishedSpan.StandsFor (out ++ b.slot.toList) runs) ∧
    (b.closed = true ↔ .close ∈ actions) ∧
    (b.closed = true → b.slot = none) ∧
    (settings.enabled = false ∨ b.closed = true →
      (∀ child, b.offer settings child = (b, [child])) ∧
      ∀ later, (b.run settings later).2 = offered later) := by
  obtain rfl : (({} : CompressionBuffer).run settings actions).1 = b := by rw [hrun]
  obtain rfl : (({} : CompressionBuffer).run settings actions).2 = out := by rw [hrun]
  have hproper : (({} : CompressionBuffer).run settings actions).1.Proper :=
    proper_empty.run settings
  refine ⟨?_, by simpa using closed_run settings actions {}, hproper.closed, fun hpass => ?_⟩
  · obtain ⟨runs, hflat, hruns⟩ := exists_runs (b := {})
      (FinishedSpan.lastsInMerging_standsFor settings) proper_empty .nil plain
    have hall := hruns.imp fun _ _ h => h.1
    exact ⟨runs, hflat, FinishedSpan.ne_nil_of_standsFor hall, hall⟩
  · have hnone : (({} : CompressionBuffer).run settings actions).1.slot = none := by
      rcases hpass with he | hc
      · exact (run_of_passing rfl (.inl he)).1
      · exact hproper.closed hc
    exact ⟨offer_of_passing hnone hpass, fun later => (run_of_passing hnone hpass).2⟩

/-- Two calls that are alike come out as one span when the buffer is closed, and a third one after
that by itself. -/
theorem run_segments_pair_and_single :
    let call : FinishedSpan := ⟨default, true, false, some "db", none⟩
    let result := ({} : CompressionBuffer).run ⟨true, 5, 5⟩
      [.offer call, .offer call, .close, .offer call]
    result.2.map (·.count) = [2, 1] ∧
      ∃ runs : List (List FinishedSpan), runs.flatten = [call, call, call] ∧ (∀ r ∈ runs, r ≠ []) ∧
        List.Forall₂ FinishedSpan.StandsFor (result.2 ++ result.1.slot.toList) runs := by
  intro call result
  refine ⟨by decide, (run_segments (b := result.1) rfl ?_).1⟩
  simp [offered, call]

end CompressionBuffer

end Telemetry
