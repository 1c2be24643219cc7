import Mathlib.Data.List.TakeWhile
import Telemetry.Proofs.ContextStack.LiveGuards

/-!
# A stack on top of another

What runs after a context was attached works on the stack of the thread, but only on the part above
the contexts that were saved before. That part behaves as a stack of its own: every operation on the
whole stack is the same operation on the upper part, with guards moved up by the size of the lower
one. The upper part must not be popped away into the lower one, so its oldest saved context has to
be there still, which it is as long as guards are dropped at most once.

## Main definitions

* `ContextStack.above`, `Guard.above`: a stack on top of saved contexts, and its guards.
* `ContextStack.Grounded`: the oldest saved context is not gone.
* `GuardedStack.onBase`: the stack of what runs with a context.

## Main results

* `ContextStack.attach_above`, `ContextStack.drop_above`: the operations on the upper part.
* `GuardedStack.Keeps.saved_eq_empty`: when all guards are dropped, the upper part is used up.
-/

namespace Telemetry

/-- The guard of the same attachment, made on top of so many saved contexts. -/
def Guard.above (n : Nat) (g : Guard) : Guard := ⟨n + g.position⟩

namespace ContextStack

variable {below : Array (Option Context)} {s : ContextStack} {g : Guard}

/-- The stack on top of contexts that were saved before. -/
def above (below : Array (Option Context)) (s : ContextStack) : ContextStack :=
  ⟨s.current, below ++ s.saved⟩

/-- The oldest saved context is not gone, if there is any. -/
def Grounded (s : ContextStack) : Prop := s.saved[0]? ≠ some none

theorem size_saved_above (below : Array (Option Context)) (s : ContextStack) :
    (s.above below).saved.size = below.size + s.saved.size := Array.size_append

theorem attach_above (hroom : below.size + s.saved.size + 1 < limit) (c : Context) :
    (s.above below).attach c =
      ((s.attach c).1.above below, (s.attach c).2.1.above below.size, []) := by
  have hroomAbove : (s.above below).saved.size + 1 < limit := by rwa [size_saved_above]
  have hroomOwn : s.saved.size + 1 < limit := by omega
  simp only [attach, if_pos hroomAbove, if_pos hroomOwn]
  simp [above, Guard.above, Nat.add_assoc]

/-- Popping the gaps stops above the contexts that were saved before. -/
theorem popWhile_above (below : Array (Option Context)) (hs : s.Grounded) (hne : s.saved ≠ #[]) :
    (below ++ s.saved).popWhile (·.isNone) = below ++ s.saved.popWhile (·.isNone) ∧
      s.saved.popWhile (·.isNone) ≠ #[] := by
  obtain ⟨current, saved⟩ := s
  obtain ⟨below⟩ := below
  obtain ⟨_ | ⟨first, rest⟩⟩ := saved
  · exact absurd rfl hne
  · obtain ⟨c, rfl⟩ : ∃ c, first = some c := Option.ne_none_iff_exists'.mp fun h => hs (by simp [h])
    constructor
    · rw [List.append_toArray, List.popWhile_toArray, List.popWhile_toArray, List.append_toArray,
        List.reverse_append, List.dropWhile_append, if_neg (by simp),
        List.reverse_append, List.reverse_reverse]
    · simp

theorem restore_above (hs : s.Grounded) (hne : s.saved ≠ #[]) :
    (s.above below).restore = s.restore.above below := by
  obtain ⟨hpop, hkept⟩ := popWhile_above below hs hne
  simp only [restore, above, hpop]
  generalize s.saved.popWhile (·.isNone) = saved at hkept ⊢
  obtain ⟨front, last, rfl⟩ := Array.exists_push_of_ne_empty hkept
  rw [← Array.push_append]
  cases last with
  | none =>
    simp only [Array.back?_push]
    rw [Array.push_append]
  | some c => simp only [Array.back?_push, Array.pop_push]

theorem drop_above (hs : s.Grounded) (hpos : 0 < g.position) (hle : g.position ≤ s.saved.size)
    (hlimit : below.size + s.saved.size < limit) :
    (s.above below).drop (g.above below.size) = ((s.drop g).1.above below, []) := by
  have hne : s.saved ≠ #[] := by
    rintro hempty
    simp [hempty] at hle
    omega
  have hbase : ¬ (g.position = 0 ∨ limit ≤ g.position) := by omega
  have hbaseAbove : ¬ ((g.above below.size).position = 0 ∨
      limit ≤ (g.above below.size).position) := by
    simp only [Guard.above]
    omega
  rw [drop, drop, if_neg hbase, if_neg hbaseAbove, size_saved_above]
  by_cases hnewest : g.position = s.saved.size
  · rw [if_pos hnewest, if_pos (by simp [Guard.above, hnewest]), restore_above hs hne]
  · have hout : ¬ s.saved.size < g.position := by omega
    rw [if_neg hnewest, if_neg hout, if_neg (by simp only [Guard.above]; omega),
      if_neg (by simp only [Guard.above]; omega)]
    simp only [above, Guard.above, Prod.mk.injEq, and_true, ContextStack.mk.injEq, true_and]
    exact Array.setIfInBounds_append_right (by omega) |>.trans (by simp)

/-- Dropping a guard saves nothing. -/
theorem size_saved_drop_le (s : ContextStack) (g : Guard) :
    (s.drop g).1.saved.size ≤ s.saved.size := by
  have hpop : (s.saved.popWhile (·.isNone)).size ≤ s.saved.size := by
    obtain ⟨saved⟩ := s.saved
    rw [List.popWhile_toArray]
    simpa using (List.dropWhile_sublist (·.isNone) (l := saved.reverse)).length_le
  have hrestore : s.restore.saved.size ≤ s.saved.size := by
    unfold restore
    dsimp only
    split
    · rw [Array.size_pop]
      omega
    · exact hpop
  unfold drop
  split_ifs
  · exact Nat.le_refl _
  · exact hrestore
  · exact Nat.le_refl _
  · simp

end ContextStack

namespace GuardedStack

variable {s : GuardedStack} {m : LiveContexts} {name : Nat} {g : Guard}

/-- The stack of what runs with a context, before it does anything. -/
def onBase (c : Context) : GuardedStack := ⟨⟨c, #[]⟩, []⟩

theorem keeps_onBase (c : Context) : Keeps (onBase c) { base := c } where
  stack := rfl
  stacked := trivial
  below := by simp [LiveContexts.LiveAt]
  attachments := rfl
  alive := by simp [LiveContexts.LiveAt]
  live := by simp [Alive, onBase]

theorem step_drop_of_alive (ha : s.Alive name g) :
    s.step (.drop name) = ⟨(s.stack.drop g).1, s.guards.set name none⟩ := by
  have hguard : s.guards[name]? = some (some g) := ha
  simp only [step, hguard]

theorem step_drop_of_not_alive (hdead : ∀ g, ¬ s.Alive name g) : s.step (.drop name) = s := by
  unfold step
  dsimp only
  split
  next g hg => exact absurd hg (hdead g)
  next => rfl

/-- Dropping a guard brings none back. -/
theorem alive_of_step_drop {name' : Nat} (ha : (s.step (.drop name')).Alive name g) :
    s.Alive name g ∧ name ≠ name' := by
  by_cases hdead : ∀ g', ¬ s.Alive name' g'
  · rw [step_drop_of_not_alive hdead] at ha
    exact ⟨ha, fun hname => hdead g (hname ▸ ha)⟩
  · obtain ⟨g', hg'⟩ := not_forall_not.mp hdead
    rw [step_drop_of_alive hg'] at ha
    simp only [Alive, List.getElem?_set] at ha
    split at ha
    · simp_all
    · exact ⟨ha, fun hname => by simp_all⟩

theorem Keeps.grounded (h : Keeps s m) : s.stack.Grounded := by
  have hfirst (base : Context) (live : List LiveGuard) :
      (LiveContexts.savedOf base live)[0]? ≠ some none := by
    induction live with
    | nil => simp [LiveContexts.savedOf]
    | cons e older ih =>
      rw [LiveContexts.savedOf]
      cases hsaved : LiveContexts.savedOf base older with
      | nil => simp
      | cons first rest => simpa [hsaved] using ih
  rw [h.stack]
  simpa [ContextStack.Grounded, LiveContexts.toStack] using hfirst m.base m.live

/-- The guards that were not dropped refer to places on the stack. -/
theorem Keeps.position_le (h : Keeps s m) (ha : s.Alive name g) (hg : g ≠ ContextStack.refused) :
    0 < g.position ∧ g.position ≤ s.stack.saved.size := by
  obtain ⟨e, he, -, hposition⟩ := h.liveAt_iff.mpr ⟨ha, hg⟩
  rw [h.stack, LiveContexts.size_saved_toStack h.stacked, ← hposition]
  exact ⟨h.stacked.position_pos he, h.stacked.le_top he⟩

/-- **When all guards are dropped, nothing is saved any more.** -/
theorem Keeps.saved_eq_empty (h : Keeps s m) (hdropped : ∀ name g, ¬ s.Alive name g) :
    s.stack.saved = #[] := by
  obtain ⟨base, live, n⟩ := m
  cases live with
  | nil => rw [h.stack]; rfl
  | cons e older => exact absurd (h.alive ⟨e, List.mem_cons_self, rfl, rfl⟩) (hdropped _ _)

end GuardedStack

end Telemetry
