/-!
# Numbers as bytes

Fixed-width big-endian encodings: the most significant byte comes first.

## Main definitions

* `bigEndian`: the last `width` bytes of a number.
* `ofBigEndian`: the number that a list of bytes encodes.
-/

namespace Telemetry

/-- The last `width` bytes of `n`, most significant first. -/
def bigEndian : (width n : Nat) → List UInt8
  | 0, _ => []
  | width + 1, n => bigEndian width (n / 256) ++ [UInt8.ofNat (n % 256)]

/-- The number that a list of bytes encodes, most significant first. -/
def ofBigEndian (bytes : List UInt8) : Nat :=
  bytes.foldl (fun n b => 256 * n + b.toNat) 0

@[simp]
theorem length_bigEndian (width n : Nat) : (bigEndian width n).length = width := by
  induction width generalizing n with
  | zero => rfl
  | succ width ih => simp [bigEndian, ih]

theorem ofBigEndian_append_singleton (bytes : List UInt8) (b : UInt8) :
    ofBigEndian (bytes ++ [b]) = 256 * ofBigEndian bytes + b.toNat := by
  simp [ofBigEndian]

/-- Decoding the bytes of a number gives it back, as far as they hold it. -/
theorem ofBigEndian_bigEndian (width n : Nat) :
    ofBigEndian (bigEndian width n) = n % Nat.pow 256 width := by
  induction width generalizing n with
  | zero => simp [bigEndian, ofBigEndian, Nat.mod_one]
  | succ width ih =>
    have step : Nat.pow 256 (width + 1) = 256 * Nat.pow 256 width := Nat.mul_comm ..
    rw [bigEndian, ofBigEndian_append_singleton, ih, step, Nat.mod_mul, UInt8.toNat_ofNat']
    omega

end Telemetry
