import Telemetry.Proofs.ContextStack.Nested

/-!
# Contexts that stay above others

From some moment on let only contexts with a property be attached, and only such guards be dropped
as were handed out since. Then whatever is current has the property, in whatever order the guards
are dropped: what is saved below is never restored.

## Main definitions

* `ContextStack.All`: all contexts of a stack have a property.
* `ContextStack.Confined`: all above the first so many saved ones have it.
* `Guard.isAbove`: the guard of such a context.

## Main results

* `ContextStack.Confined.attach`, `ContextStack.Confined.drop`.
-/

namespace Telemetry

/-- The guard does not restore any of the first `n` saved contexts. -/
def Guard.isAbove (n : Nat) (g : Guard) : Bool :=
  n < g.position || ContextStack.limit ≤ g.position

namespace ContextStack

variable {P Q : Context → Prop} {s : ContextStack} {c : Context} {g : Guard} {n : Nat}

theorem popWhile_prefix {α : Type} (as : Array α) (p : α → Bool) :
    (as.popWhile p).toList <+: as.toList := by
  obtain ⟨l⟩ := as
  rw [List.popWhile_toArray]
  exact List.reverse_suffix.mp (by simpa using l.reverse.dropWhile_suffix p)

/-- Restoring takes saved contexts away, and the last of them may become current. -/
theorem restore_subset (s : ContextStack) :
    s.restore.saved.toList <+: s.saved.toList ∧
      (s.restore.current = s.current ∨ some s.restore.current ∈ s.saved) := by
  have hinitial := popWhile_prefix s.saved (·.isNone)
  unfold restore
  dsimp only
  split
  · rename_i c hc
    refine ⟨?_, .inr ?_⟩
    · rw [Array.toList_pop]
      exact (List.dropLast_prefix _).trans hinitial
    · exact Array.mem_def.mpr (hinitial.subset (Array.mem_def.mp (Array.mem_of_back? hc)))
  · exact ⟨hinitial, .inl rfl⟩

/-! ### A whole stack -/

/-- The current context has the property, and so have all that are saved. -/
structure All (P : Context → Prop) (s : ContextStack) : Prop where
  current : P s.current
  saved : ∀ c, some c ∈ s.saved → P c

theorem All.restore (h : s.All P) : s.restore.All P := by
  obtain ⟨hsaved, hcurrent⟩ := s.restore_subset
  refine ⟨?_, fun c hc => h.saved c ?_⟩
  · rcases hcurrent with hsame | hmem
    · exact hsame ▸ h.current
    · exact h.saved _ hmem
  · exact Array.mem_def.mpr (hsaved.subset (Array.mem_def.mp hc))

theorem All.mono (h : s.All P) (hPQ : ∀ c, P c → Q c) : s.All Q :=
  ⟨hPQ _ h.current, fun c hc => hPQ c (h.saved c hc)⟩

theorem All.setCurrent (h : s.All P) (hc : P c) : All P { s with current := c } := ⟨hc, h.saved⟩

theorem All.attach (h : s.All P) (hc : P c) : (s.attach c).1.All P := by
  unfold ContextStack.attach
  dsimp only
  split
  · refine ⟨hc, fun c' hc' => ?_⟩
    rcases Array.mem_push.mp hc' with hmem | heq
    · exact h.saved c' hmem
    · exact Option.some.inj heq ▸ h.current
  · exact h

theorem All.drop (h : s.All P) (g : Guard) : (s.drop g).1.All P := by
  unfold ContextStack.drop
  split
  · exact h
  split
  · exact h.restore
  split
  · exact h
  · refine ⟨h.current, fun c hc => ?_⟩
    rcases Array.mem_or_eq_of_mem_setIfInBounds hc with hmem | heq
    · exact h.saved c hmem
    · cases heq

theorem Grounded.restore (h : s.Grounded) : s.restore.Grounded := by
  intro hnone
  rw [← Array.getElem?_toList] at hnone
  obtain ⟨rest, hrest⟩ := s.restore_subset.1
  have hlt : 0 < s.restore.saved.toList.length := (List.getElem?_eq_some_iff.mp hnone).1
  exact h (by rw [← Array.getElem?_toList, ← hrest, List.getElem?_append_left hlt, hnone])

/-! ### The part above saved contexts -/

/-- The contexts above the first `n` saved ones have the property, and the oldest of them that is
saved is not gone. -/
def Confined (P : Context → Prop) (n : Nat) (s : ContextStack) : Prop :=
  ∃ below top, s = above below top ∧ below.size = n ∧ top.Grounded ∧ top.All P

theorem confined_of_current (h : P s.current) : s.Confined P s.saved.size :=
  ⟨s.saved, ⟨s.current, #[]⟩, by simp [above], rfl, by simp [Grounded], h, by simp⟩

theorem Confined.current (h : s.Confined P n) : P s.current := by
  obtain ⟨below, top, rfl, -, -, hall⟩ := h
  exact hall.current

theorem Confined.mono (h : s.Confined P n) (hPQ : ∀ c, P c → Q c) : s.Confined Q n := by
  obtain ⟨below, top, hs, hn, hgrounded, hall⟩ := h
  exact ⟨below, top, hs, hn, hgrounded, hPQ _ hall.current, fun c hc => hPQ c (hall.saved c hc)⟩

theorem Confined.setCurrent (h : s.Confined P n) (hc : P c) :
    Confined P n { s with current := c } := by
  obtain ⟨below, top, rfl, hn, hgrounded, hall⟩ := h
  exact ⟨below, { top with current := c }, rfl, hn, hgrounded, hc, hall.saved⟩

theorem Confined.attach (h : s.Confined P n) (hc : P c) : (s.attach c).1.Confined P n := by
  unfold ContextStack.attach
  dsimp only
  split
  · obtain ⟨below, top, rfl, hn, hgrounded, hall⟩ := h
    refine ⟨below, ⟨c, top.saved.push (some top.current)⟩, by simp [above], hn, ?_, hc, ?_⟩
    · intro hnone
      rw [Array.getElem?_push] at hnone
      split at hnone
      · cases hnone
      · exact hgrounded hnone
    · intro c' hc'
      rcases Array.mem_push.mp hc' with hmem | heq
      · exact hall.saved c' hmem
      · exact Option.some.inj heq ▸ hall.current
  · exact h

/-- The guard that is handed out does not restore what was saved before. -/
theorem Confined.isAbove_attach (h : s.Confined P n) (c : Context) :
    (s.attach c).2.1.isAbove n = true := by
  obtain ⟨below, top, rfl, rfl, -, -⟩ := h
  unfold ContextStack.attach
  dsimp only
  rw [size_saved_above]
  split
  · simp only [Guard.isAbove, Bool.or_eq_true, decide_eq_true_eq]
    omega
  · simp [Guard.isAbove, refused]

/-- **A guard that is dropped** restores one of the contexts above, or none. -/
theorem Confined.drop (h : s.Confined P n) (hg : g.isAbove n = true) :
    (s.drop g).1.Confined P n := by
  unfold ContextStack.drop
  split
  · exact h
  rename_i hposition
  have hn : n < g.position := by
    simp only [Guard.isAbove, Bool.or_eq_true, decide_eq_true_eq] at hg
    omega
  split
  · rename_i hnewest
    obtain ⟨below, top, rfl, rfl, hgrounded, hall⟩ := h
    rw [size_saved_above] at hnewest
    have hne : top.saved ≠ #[] := by
      rintro hempty
      simp only [hempty, Array.size_empty] at hnewest
      omega
    exact ⟨below, top.restore, restore_above hgrounded hne, rfl, hgrounded.restore, hall.restore⟩
  split
  · exact h
  · obtain ⟨below, top, rfl, rfl, hgrounded, hall⟩ := h
    refine ⟨below, { top with saved := top.saved.setIfInBounds (g.position - below.size) none }, ?_,
      rfl, ?_, hall.current, ?_⟩
    · simp only [above]
      rw [Array.setIfInBounds_append_right (by omega)]
    · have hpos : g.position - below.size ≠ 0 := by omega
      simpa [Grounded, Array.getElem?_setIfInBounds, hpos] using hgrounded
    · intro c hc
      rcases Array.mem_or_eq_of_mem_setIfInBounds hc with hmem | heq
      · exact hall.saved c hmem
      · cases heq

end ContextStack

end Telemetry
