import Telemetry.Decimal.Layout

/-!
# The text of a fraction

Numbers between a small positive one and one are written with few characters, digits and a point.
The logical model of floating point numbers gives their sign, mantissa and exponent; the search for
the shortest decimal starts from the same bits, and its last grid is not far below the leading
digit.

The bounds are far from tight: they count the digits of the finest grid that the search may reach.

## Main definitions

* `IsFraction`: a number whose exponent in the model is that of a fraction.

## Main results

* `Binary.ofBits?_of_unpack`: the magnitude is what the model says.
* `Binary.exists_shortest`: the shortest decimal of a fraction has few digits.
* `IsFraction.length_plainText_le`, `IsFraction.isDigit_or_of_mem_plainText`: so has its text, and
  no other characters than digits and points.
-/

namespace Telemetry

open Float.Model (UnpackedFloat)
open Float.Model.UnpackedFloat (Sign unpackMantissa unpackExponent unpackSign)

/-- A positive number of exponent `-66` to `-52`: with a full mantissa, from `2 ^ -14` to below
two. -/
def IsFraction (x : Float) : Prop :=
  ∃ m e h, x.toModel.unpack = .finite .positive m e h ∧ -66 ≤ e ∧ e ≤ -52

namespace Binary

/-! ### The bits of a number -/

theorem toNat_unpackMantissa (b : BitVec 64) :
    (@unpackMantissa .binary64 b).toNat = b.toNat % Nat.pow 2 52 := by
  simp [unpackMantissa]

theorem toNat_unpackExponent (b : BitVec 64) :
    (@unpackExponent .binary64 b).toNat =
      b.toNat / Nat.pow 2 52 % Nat.pow 2 11 := by
  simp [unpackExponent, Nat.shiftRight_eq_div_pow]

theorem toNat_unpackSign (b : BitVec 64) :
    (@unpackSign .binary64 b).toNat = b.toNat / Nat.pow 2 63 := by
  have hlt : b.toNat / Nat.pow 2 63 < 2 := Nat.div_lt_of_lt_mul b.isLt
  change (b.extractLsb 63 63).toNat = _
  simpa [Nat.shiftRight_eq_div_pow] using hlt

theorem toNat_append_one (f : BitVec 52) : (1#1 ++ f).toNat = Nat.pow 2 52 + f.toNat := by
  rw [BitVec.toNat_append, ← Nat.shiftLeft_add_eq_or_of_lt f.isLt]
  rfl

theorem toNat_of_positive {b : BitVec 1} (h : Sign.ofBitVec b = .positive) : b.toNat = 0 := by
  unfold Sign.ofBitVec at h
  split at h
  · rename_i hzero
    rw [hzero]
    rfl
  · cases h

/-- What the fields of a finite number are: a subnormal number has no leading one. -/
theorem fields_of_unpack {b : BitVec 64} {s : Sign} {m : Nat} {e : Int} {h : 0 < m}
    (hb : UnpackedFloat.unpack .binary64 b = .finite s m e h) :
    Sign.ofBitVec (@unpackSign .binary64 b) = s ∧ (@unpackExponent .binary64 b).toNat ≠ 2047 ∧
      ((@unpackExponent .binary64 b).toNat = 0 ∧ m = (@unpackMantissa .binary64 b).toNat ∧
          e = -1074 ∨
        (@unpackExponent .binary64 b).toNat ≠ 0 ∧
          m = Nat.pow 2 52 + (@unpackMantissa .binary64 b).toNat ∧
          e = (@unpackExponent .binary64 b).toNat - 1075) := by
  delta UnpackedFloat.unpack at hb
  dsimp only at hb
  by_cases hlast : @unpackExponent .binary64 b = -1#11
  · rw [if_pos hlast] at hb
    by_cases hzero : @unpackMantissa .binary64 b = 0#52
    · rw [if_pos hzero] at hb
      cases hb
    · rw [if_neg hzero] at hb
      cases hb
  rw [if_neg hlast] at hb
  have hfinite : (@unpackExponent .binary64 b).toNat ≠ 2047 := fun h =>
    hlast (BitVec.eq_of_toNat_eq h)
  by_cases hsubnormal : @unpackExponent .binary64 b = 0#11
  · rw [if_pos hsubnormal] at hb
    by_cases hzero : @unpackMantissa .binary64 b = 0#52
    · rw [dif_pos hzero] at hb
      cases hb
    rw [dif_neg hzero] at hb
    obtain ⟨hs, hm, he⟩ := UnpackedFloat.finite.inj hb
    rw [hsubnormal] at he
    exact ⟨hs, hfinite, .inl ⟨congrArg BitVec.toNat hsubnormal, hm.symm, he.symm⟩⟩
  · rw [if_neg hsubnormal] at hb
    obtain ⟨hs, hm, he⟩ := UnpackedFloat.finite.inj hb
    rw [toNat_append_one] at hm
    exact ⟨hs, hfinite, .inr ⟨fun h => hsubnormal (BitVec.eq_of_toNat_eq h), hm.symm, he.symm⟩⟩

/-- **The magnitude that the bits hold** is what the model unpacks. -/
theorem ofBits?_of_unpack {bits : UInt64} {m : Nat} {e : Int} {h : 0 < m}
    (hbits : UnpackedFloat.unpack .binary64 bits.toBitVec = .finite .positive m e h) :
    (∃ narrow, ofBits? bits = some ⟨m, e, narrow⟩) ∧ m < Nat.pow 2 53 ∧
      bits.toNat / Nat.pow 2 63 = 0 := by
  obtain ⟨hsign, hfinite, hfields⟩ := fields_of_unpack hbits
  have hpositive := toNat_of_positive hsign
  rw [toNat_unpackSign] at hpositive
  simp only [toNat_unpackExponent, toNat_unpackMantissa, UInt64.toNat_toBitVec] at hfinite hfields
  have hlt : bits.toNat % Nat.pow 2 52 < Nat.pow 2 52 := Nat.mod_lt _ (by decide)
  have hwide : Nat.pow 2 53 = Nat.pow 2 52 + Nat.pow 2 52 := rfl
  rcases hfields with ⟨hleast, rfl, rfl⟩ | ⟨hnormal, rfl, rfl⟩
  · refine ⟨?_, by omega, hpositive⟩
    rw [ofBits?, if_neg hfinite, if_pos hleast, if_neg (by omega)]
    exact ⟨_, rfl⟩
  · refine ⟨?_, by omega, hpositive⟩
    rw [ofBits?, if_neg hfinite, if_neg hnormal]
    exact ⟨_, rfl⟩

/-! ### The shortest decimal -/

variable {tie : Tie} {b : Binary} {e : Int} {d : Nat}

/-- Only the two neighbours of the value are looked at. -/
theorem onGrid?_le (h : b.onGrid? tie e = some d) :
    d ≤ (b.scaled e).value / (b.scaled e).unit + 1 := by
  simp only [onGrid?] at h
  split at h <;> grind

/-- The search ends on one of its grids, at the value or next to it. -/
theorem exists_search (tie : Tie) (b : Binary) (n : Nat) (e : Int) :
    ∃ d f, b.search tie n e = ⟨d, f⟩ ∧ e - n ≤ f ∧ f ≤ e ∧
      d ≤ (b.scaled f).value / (b.scaled f).unit + 1 := by
  induction n generalizing e with
  | zero => exact ⟨_, _, rfl, by omega, by omega, Nat.le_succ _⟩
  | succ n ih =>
    rw [search]
    split
    · rename_i d hd
      exact ⟨d, e, rfl, by omega, by omega, onGrid?_le hd⟩
    · obtain ⟨d, f, hsearch, hlow, hhigh, hd⟩ := ih (e - 1)
      exact ⟨d, f, hsearch, by omega, by omega, hd⟩

/-- The shortest decimal of a fraction has few digits, not far from the point. -/
theorem exists_shortest (tie : Tie) (hm : b.mantissa < Nat.pow 2 53) (hlow : -66 ≤ b.exponent)
    (hhigh : b.exponent ≤ -52) :
    ∃ d f, b.shortest tie = ⟨d, f⟩ ∧ -40 ≤ f ∧ f ≤ 2 ∧ d < Nat.pow 10 57 := by
  have hlog : b.mantissa.log2 ≤ 52 := by
    by_cases hzero : b.mantissa = 0
    · simp [hzero]
    · exact Nat.le_of_lt_succ ((Nat.log2_lt hzero).mpr hm)
  obtain ⟨d, f, hsearch, hf, hf', hd⟩ :=
    b.exists_search tie 22 ((b.mantissa.log2 + b.exponent) * 30103 / 100000 + 2)
  refine ⟨d, f, hsearch, by omega, by omega, ?_⟩
  have htwo : (b.exponent - 2).toNat = 0 := by omega
  have hten : Nat.pow 10 (-f).toNat ≤ Nat.pow 10 40 :=
    Nat.pow_le_pow_right (by decide) (by omega)
  have hvalue : (b.scaled f).value ≤ 4 * Nat.pow 2 53 * Nat.pow 10 40 := by
    simp only [scaled, htwo]
    exact Nat.mul_le_mul (by omega) (by simpa using hten)
  calc d ≤ (b.scaled f).value / (b.scaled f).unit + 1 := hd
    _ ≤ 4 * Nat.pow 2 53 * Nat.pow 10 40 + 1 :=
      Nat.succ_le_succ (Nat.le_trans (Nat.div_le_self _ _) hvalue)
    _ < Nat.pow 10 57 := by decide

end Binary

/-! ### The text -/

namespace Layout

variable (l : Layout)

theorem length_writePositional_le (digits : List Char) (places : Int) :
    (l.writePositional digits places).length ≤ digits.length + places.natAbs + 2 := by
  unfold writePositional
  split
  · simp
    omega
  dsimp only
  split
  · split <;> simp <;> omega
  · simp
    omega

theorem mem_writePositional {digits : List Char} {places : Int} {c : Char}
    (h : c ∈ l.writePositional digits places) : c ∈ digits ∨ c = '.' ∨ c = '0' := by
  unfold writePositional at h
  split at h
  · simp only [List.mem_append, List.mem_replicate] at h
    grind
  dsimp only at h
  split at h
  · grind [List.mem_of_mem_take]
  · grind [List.mem_of_mem_take, List.mem_of_mem_drop]

end Layout

namespace IsFraction

variable {x : Float}

/-- The text of a fraction is that of a decimal with few digits. -/
theorem exists_write (hx : IsFraction x) : ∃ d f, -40 ≤ f ∧ f ≤ 2 ∧ d < Nat.pow 10 57 ∧
    plainText x = String.ofList (plainLayout.writePositional (Nat.toDigits 10 d)
      (f + (Nat.toDigits 10 d).length - 1 + 1)) := by
  obtain ⟨m, e, h, hunpack, hlow, hhigh⟩ := hx
  have hNaN : x.isNaN = false := by
    change x.toModel.unpack.isNaN = false
    rw [hunpack]
    rfl
  have hinf : x.isInf = false := by
    change x.toModel.unpack.isInf = false
    rw [hunpack]
    rfl
  have hword : UnpackedFloat.unpack .binary64 x.toBits.toBitVec = .finite .positive m e h := hunpack
  obtain ⟨⟨narrow, hbits⟩, hm, hsign⟩ := Binary.ofBits?_of_unpack hword
  obtain ⟨d, f, hshortest, hf, hf', hd⟩ :=
    Binary.exists_shortest (b := ⟨m, e, narrow⟩) plainLayout.tie hm hlow hhigh
  have hwrite : plainLayout.write x = plainLayout.writeDecimal ⟨d, f⟩ := by
    simp only [Layout.write, hbits, hsign, hshortest]
    rfl
  refine ⟨d, f, hf, hf', hd, ?_⟩
  simp only [plainText, hNaN, hinf, hwrite]
  rfl

/-- **The text of a fraction is short.** -/
theorem length_plainText_le (hx : IsFraction x) : (plainText x).toList.length ≤ 200 := by
  obtain ⟨d, f, hlow, hhigh, hd, htext⟩ := hx.exists_write
  have hdigits : (Nat.toDigits 10 d).length ≤ 57 :=
    (Nat.length_toDigits_le_iff (by decide) (by decide)).mpr hd
  have hlength := plainLayout.length_writePositional_le (Nat.toDigits 10 d)
    (f + (Nat.toDigits 10 d).length - 1 + 1)
  rw [htext, String.toList_ofList]
  omega

/-- **The text of a fraction** consists of digits and a point. -/
theorem isDigit_or_of_mem_plainText (hx : IsFraction x) {c : Char}
    (h : c ∈ (plainText x).toList) : c.isDigit = true ∨ c = '.' := by
  obtain ⟨d, f, -, -, -, htext⟩ := hx.exists_write
  rw [htext, String.toList_ofList] at h
  rcases plainLayout.mem_writePositional h with h | h | h
  · exact .inl (Nat.isDigit_of_mem_toDigits (by decide) (by decide) h)
  · exact .inr h
  · exact .inl (h ▸ rfl)

end IsFraction

end Telemetry
