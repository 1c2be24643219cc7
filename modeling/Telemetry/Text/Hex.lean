/-!
# Hexadecimal digits

Numbers written in base 16: a fixed number of lower-case digits when printed, and, when read, any
number of digits of either case.

## Main definitions

* `hexDigit`, `hexValue?`: one digit, written and read.
* `hexFixed`: the last `width` digits of a number.
* `ofHexDigits?`: the number that a text of digits denotes.
* `readHex`: the number below a bound, or why the text has none.
* `isLowerHex`: a text of exactly so many lower-case digits.
-/

namespace Telemetry.Text

/-- The lower-case digit for a value below 16. -/
def hexDigit (n : Nat) : Char :=
  if n < 10 then Char.ofNat (48 + n) else Char.ofNat (87 + n)

/-- The value of a digit of either case. -/
def hexValue? (c : Char) : Option Nat :=
  let n := c.toNat
  if 48 ≤ n ∧ n ≤ 57 then some (n - 48)
  else if 97 ≤ n ∧ n ≤ 102 then some (n - 87)
  else if 65 ≤ n ∧ n ≤ 70 then some (n - 55)
  else none

/-- The last `width` digits of `n`, most significant first, padded with zeros. -/
def hexFixed : (width n : Nat) → List Char
  | 0, _ => []
  | width + 1, n => hexFixed width (n / 16) ++ [hexDigit (n % 16)]

/-- The digits of `n` without leading zeros; zero is a single digit. -/
def hexShort (n : Nat) : List Char :=
  if n < 16 then [hexDigit n] else hexShort (n / 16) ++ [hexDigit (n % 16)]

/-- The number that a text of digits denotes, continuing from `acc`; `none` if some character is
not a digit. -/
def ofHexDigitsFrom? (acc : Nat) : List Char → Option Nat
  | [] => some acc
  | c :: rest =>
    match hexValue? c with
    | some d => ofHexDigitsFrom? (16 * acc + d) rest
    | none => none

/-- The number that a text of digits denotes. -/
def ofHexDigits? (s : List Char) : Option Nat :=
  ofHexDigitsFrom? 0 s

/-- Why a text is not a number of the expected kind. -/
inductive DigitError
  | empty
  | invalidDigit
  | overflow
  deriving DecidableEq, Repr

/-- The wording of a digit error. -/
def DigitError.message : DigitError → String
  | .empty => "cannot parse integer from empty string"
  | .invalidDigit => "invalid digit found in string"
  | .overflow => "number too large to fit in target type"

/-- Reads digits one by one. The first fault wins: a character that is no digit, or a digit that
takes the number to the bound or past it. -/
def readHexDigits (bound acc : Nat) : List Char → Except DigitError Nat
  | [] => .ok acc
  | c :: rest =>
    match hexValue? c with
    | none => .error .invalidDigit
    | some d =>
      if 16 * acc + d < bound then readHexDigits bound (16 * acc + d) rest
      else .error .overflow

/-- Reads a number below `bound`: digits of either case, with an optional plus sign before them. -/
def readHex (bound : Nat) : List Char → Except DigitError Nat
  | [] => .error .empty
  | ['+'] => .error .invalidDigit
  | '+' :: rest => readHexDigits bound 0 rest
  | s => readHexDigits bound 0 s

/-- The text consists of exactly `width` lower-case digits. -/
def isLowerHex (width : Nat) (s : List Char) : Bool :=
  s.length == width && s.all fun c => c.isDigit || ('a' ≤ c && c ≤ 'f')

/-! ### Length and round trip -/

@[simp]
theorem length_hexFixed (width n : Nat) : (hexFixed width n).length = width := by
  induction width generalizing n with
  | zero => rfl
  | succ width ih => simp [hexFixed, ih]

theorem hexValue?_hexDigit {n : Nat} (h : n < 16) : hexValue? (hexDigit n) = some n := by
  revert n; decide

theorem ofHexDigitsFrom?_append (acc : Nat) (s t : List Char) :
    ofHexDigitsFrom? acc (s ++ t) = (ofHexDigitsFrom? acc s).bind (ofHexDigitsFrom? · t) := by
  induction s generalizing acc with
  | nil => rfl
  | cons c s ih =>
    simp only [List.cons_append, ofHexDigitsFrom?]
    split
    · exact ih _
    · rfl

theorem ofHexDigitsFrom?_hexFixed (acc width n : Nat) :
    ofHexDigitsFrom? acc (hexFixed width n) =
      some (acc * Nat.pow 16 width + n % Nat.pow 16 width) := by
  induction width generalizing acc n with
  | zero => simp [hexFixed, ofHexDigitsFrom?, Nat.mod_one]
  | succ width ih =>
    rw [hexFixed, ofHexDigitsFrom?_append, ih]
    have digit : hexValue? (hexDigit (n % 16)) = some (n % 16) :=
      hexValue?_hexDigit (Nat.mod_lt n (by decide))
    simp only [Option.bind_some, ofHexDigitsFrom?, digit]
    have step : Nat.pow 16 (width + 1) = 16 * Nat.pow 16 width := Nat.mul_comm ..
    rw [step, Nat.mod_mul, Nat.mul_add, ← Nat.mul_assoc, Nat.mul_comm 16 acc, Nat.mul_assoc]
    congr 1
    omega

/-- Reading the fixed-width form gives the number back. -/
theorem ofHexDigits?_hexFixed {width n : Nat} (h : n < Nat.pow 16 width) :
    ofHexDigits? (hexFixed width n) = some n := by
  rw [ofHexDigits?, ofHexDigitsFrom?_hexFixed, Nat.mod_eq_of_lt h, Nat.zero_mul, Nat.zero_add]

end Telemetry.Text
