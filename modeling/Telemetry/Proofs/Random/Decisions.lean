import Telemetry.Proofs.Trace.SampleRate

/-!
# What a rate decides

A rate of one or more settles that a trace is sampled, and a rate of zero or less that it is not. A
rate in between leaves it to the next number of the stream. Not every number is of one of these
kinds, but every rate is that was rounded.

## Main definitions

* `IsChance`: the rate lies between zero and one.

## Main results

* `roundRate_cases`: a rounded rate is of one of the three kinds.
* `Sampler.decide_of_one_le`, `Sampler.decide_of_le_zero`, `Sampler.decide_of_isChance`: what each
  of them decides, and what it draws.
-/

namespace Telemetry

open Float.Model (UnpackedFloat)

variable {x y rate : Float}

/-! ### The order of numbers -/

theorem lt_iff_unpack : x < y ↔ x.toModel.unpack.compare y.toModel.unpack = some .lt := by
  change decide (x.toModel.unpack.lt y.toModel.unpack = true) = true ↔ _
  rw [decide_eq_true_iff]
  exact beq_iff_eq

/-- Comparing the other way round gives the opposite. -/
theorem compare_swap (u v : UnpackedFloat) : v.compare u = (u.compare v).map Ordering.swap := by
  cases u with
  | notANumber => cases v <;> rfl
  | infinity s => cases s <;> rcases v with (_ | _) | _ | _ | ⟨_ | _⟩ <;> rfl
  | zero s => rcases v with (_ | _) | _ | _ | ⟨_ | _⟩ <;> rfl
  | finite s m e h =>
    rcases v with (_ | _) | _ | _ | ⟨s', m', e', h'⟩ <;> try (cases s <;> rfl)
    have hswap : (compare e' e).then (compare m' m) =
        ((compare e e').then (compare m m')).swap := by
      rw [Ordering.swap_then, Int.compare_swap, Nat.compare_swap]
    -- Only if the signs are the same it matters how large the numbers are.
    cases s with
    | negative =>
      cases s' with
      | negative => exact congrArg (fun order => some order.swap) hswap
      | positive => rfl
    | positive =>
      cases s' with
      | negative => rfl
      | positive => exact congrArg some hswap

theorem not_le_of_lt (h : x < y) : ¬ y ≤ x := by
  rw [lt_iff_unpack] at h
  rw [le_iff_unpack, UnpackedFloat.le, compare_swap, h]
  exact Bool.false_ne_true

theorem lt_or_le_of_le (h : x ≤ y) : x < y ∨ y ≤ x := by
  rw [le_iff_unpack, UnpackedFloat.le] at h
  rw [lt_iff_unpack, le_iff_unpack, UnpackedFloat.le, compare_swap x.toModel.unpack]
  cases hcompare : x.toModel.unpack.compare y.toModel.unpack with
  | none =>
    rw [hcompare] at h
    cases h
  | some order =>
    rw [hcompare] at h
    cases order with
    | lt => exact .inl rfl
    | eq => exact .inr rfl
    | gt => cases h

theorem le_of_beq (h : (x == y) = true) : x ≤ y := by
  change (x.toModel.unpack.compare y.toModel.unpack == some .eq) = true at h
  rw [le_iff_unpack, UnpackedFloat.le, beq_iff_eq.mp h]
  rfl

/-- What is at most zero is below one. -/
theorem not_one_le_of_le_zero (h : rate ≤ 0) : ¬ 1 ≤ rate := by
  obtain ⟨m, hm, hone⟩ := unpack_one
  intro hle
  rw [le_iff_unpack, hone] at hle
  rw [le_iff_unpack] at h
  cases hx : rate.toModel.unpack with
  | notANumber => rw [hx] at h; cases h
  | zero => rw [hx] at hle; cases hle
  | infinity s | finite s =>
    rw [hx] at h hle
    cases s with
    | negative => cases hle
    | positive => cases h

/-- What is no number has no place in the order. -/
theorem isNaN_eq_false_of_lt (h : x < y) : x.isNaN = false := by
  rw [lt_iff_unpack] at h
  change x.toModel.unpack.isNaN = false
  cases hx : x.toModel.unpack with
  | notANumber =>
    rw [hx] at h
    cases h
  | infinity | zero | finite => rfl

/-! ### Rates -/

/-- The rate lies between zero and one, so that chance decides. -/
def IsChance (rate : Float) : Prop := 0 < rate ∧ rate < 1

instance : DecidablePred IsChance := fun rate => inferInstanceAs (Decidable (0 < rate ∧ rate < 1))

/-- **A rounded rate** is at least one, or at most zero, or lies in between. -/
theorem roundRate_cases (rate : Float) :
    1 ≤ roundRate rate ∨ roundRate rate ≤ 0 ∨ IsChance (roundRate rate) := by
  by_cases hpos : rate > 0
  · obtain ⟨hlow, hhigh⟩ := roundRate_of_pos hpos
    obtain ⟨m, e, hm, hx, -, -⟩ := isFraction_of_le hlow hhigh
    have hzero : 0 < roundRate rate := by
      rw [lt_iff_unpack, hx]
      rfl
    rcases lt_or_le_of_le hhigh with hlt | hle
    · exact .inr (.inr ⟨hzero, hlt⟩)
    · exact .inl hle
  · exact .inr (.inl (le_of_beq (roundRate_of_not_pos hpos)))

namespace Sampler

variable (s : Sampler)

theorem decide_of_one_le (h : 1 ≤ rate) : s.decide rate = (true, s) := if_pos h

theorem decide_of_le_zero (h : rate ≤ 0) : s.decide rate = (false, s) := by
  rw [decide, if_neg (not_one_le_of_le_zero h), if_pos (by simp [h])]

theorem decide_of_isChance (h : IsChance rate) :
    s.decide rate =
      (Decidable.decide (Stream.unit s.seed s.drawn < rate), { s with drawn := s.drawn + 1 }) := by
  have hfixed : ¬ (Decidable.decide (rate ≤ 0) || rate.isNaN) = true := by
    rw [isNaN_eq_false_of_lt h.2, Bool.or_false, decide_eq_true_iff]
    exact not_le_of_lt h.1
  rw [decide, if_neg (not_le_of_lt h.2), if_neg hfixed]

end Sampler

end Telemetry
