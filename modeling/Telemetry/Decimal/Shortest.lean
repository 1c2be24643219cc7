/-!
# The shortest decimal that reads back

A finite binary floating point number `m * 2 ^ q` stands for an interval of reals, those that round
to it. Its shortest decimal is the point of the coarsest decimal grid `d * 10 ^ e` that lies in the
interval; of two such points on one grid it is the nearer one. On each grid only the two neighbours
of the value itself can be nearest, so the search looks at those alone, in exact arithmetic.

The interval includes its ends exactly when `m` is even, because reading rounds halfway cases to
the even mantissa.

## Main definitions

* `Binary`: a positive number `m * 2 ^ q`, and `Binary.ofBits?`, which reads it off a word.
* `Decimal`: a positive number `digits * 10 ^ exponent`.
* `Tie`: which of two equally near points is taken.
* `Binary.shortest`: the shortest decimal.
-/

namespace Telemetry

/-- A positive number `digits * 10 ^ exponent`. -/
structure Decimal where
  digits : Nat
  exponent : Int
  deriving DecidableEq, Repr

/-- Which of two equally near grid points stands for a value halfway between them. -/
inductive Tie
  | toEven
  | upward
  deriving DecidableEq, Repr

/-- A positive number `mantissa * 2 ^ exponent`. The gap below it is half the gap above it when
`narrowBelow` holds, which is so at the powers of two. -/
structure Binary where
  mantissa : Nat
  exponent : Int
  narrowBelow : Bool
  deriving DecidableEq, Repr

namespace Binary

/-- The magnitude that the bits of a double precision number hold; `none` for zero, for the
infinities and where there is no number. -/
def ofBits? (bits : UInt64) : Option Binary :=
  let fraction := bits.toNat % Nat.pow 2 52
  let biased := bits.toNat / Nat.pow 2 52 % Nat.pow 2 11
  if biased = Nat.pow 2 11 - 1 then none
  else if biased = 0 then
    if fraction = 0 then none else some ⟨fraction, -1074, false⟩
  else some ⟨Nat.pow 2 52 + fraction, Int.ofNat biased - 1075, fraction == 0 && biased != 1⟩

/-- Four times the lower end, the value and the upper end of the interval that rounds to `b`, as
numerators over one denominator, in units of `10 ^ e`. -/
structure Scaled where
  low : Nat
  value : Nat
  high : Nat
  unit : Nat

/-- The interval of `b` in units of `10 ^ e`. -/
def scaled (b : Binary) (e : Int) : Scaled :=
  let up := Nat.pow 2 (b.exponent - 2).toNat * Nat.pow 10 (-e).toNat
  { low := (4 * b.mantissa - if b.narrowBelow then 1 else 2) * up
    value := 4 * b.mantissa * up
    high := (4 * b.mantissa + 2) * up
    unit := Nat.pow 2 (2 - b.exponent).toNat * Nat.pow 10 e.toNat }

/-- The grid point `d` rounds to `b`. -/
def holds (b : Binary) (s : Scaled) (d : Nat) : Bool :=
  if b.mantissa % 2 = 0 then s.low ≤ d * s.unit && d * s.unit ≤ s.high
  else s.low < d * s.unit && d * s.unit < s.high

/-- The nearest point of the grid `10 ^ e` that rounds to `b`, if there is one. -/
def onGrid? (tie : Tie) (b : Binary) (e : Int) : Option Nat :=
  let s := b.scaled e
  let d := s.value / s.unit
  match b.holds s d, b.holds s (d + 1) with
  | false, false => none
  | true, false => some d
  | false, true => some (d + 1)
  | true, true =>
    let twice := 2 * s.value
    let middle := (2 * d + 1) * s.unit
    if twice < middle then some d
    else if middle < twice then some (d + 1)
    else match tie with
      | .toEven => some (if d % 2 = 0 then d else d + 1)
      | .upward => some (d + 1)

/-- The first grid with a point that rounds to `b`, going from coarse to fine. -/
def search (tie : Tie) (b : Binary) : Nat → Int → Decimal
  | 0, e => ⟨(b.scaled e).value / (b.scaled e).unit, e⟩
  | n + 1, e =>
    match b.onGrid? tie e with
    | some d => ⟨d, e⟩
    | none => search tie b n (e - 1)

/-- The shortest decimal that rounds to `b`. The search starts above the leading digit and ends at
the latest seventeen digits further down, where neighbouring points are closer than the interval is
wide. -/
def shortest (tie : Tie) (b : Binary) : Decimal :=
  let leading := (b.mantissa.log2 + b.exponent) * 30103 / 100000 + 2
  search tie b 22 leading

/-- The chosen point rounds to `b`. -/
theorem holds_of_onGrid? {tie : Tie} {b : Binary} {e : Int} {d : Nat}
    (h : b.onGrid? tie e = some d) : b.holds (b.scaled e) d := by
  simp only [onGrid?] at h
  split at h <;> grind

end Binary

end Telemetry
