import Telemetry.Text.Integer

/-!
# Reading numbers

The accepted texts are an optional sign, digits with an optional point (on either side of which the
digits may be missing, but not on both), and an optional exponent; or, with an optional sign and in
any case, `inf`, `infinity` and `nan`. Nothing else is a number: no blanks, no separators, no other
base. The value is the double nearest to the decimal.

## Main definitions

* `ofDecimal`: the double nearest to `digits * 10 ^ exponent`.
* `readFloat?`: the number that a text denotes.
-/

namespace Telemetry.Text

/-- The double nearest to `digits * 10 ^ exponent`. Decimals far outside the range of doubles are
decided by the position of their first digit. -/
def ofDecimal (digits : Nat) (exponent : Int) : Float :=
  let leading := (Nat.toDigits 10 digits).length + exponent
  if digits = 0 then 0
  else if leading > 400 then 1 / 0
  else if leading < -400 then 0
  else Float.ofScientific digits (exponent < 0) exponent.natAbs

/-- The exponent after the mark `e`: an optional sign and at least one digit. -/
def readExponent? : List Char → Option Int
  | '-' :: rest => (ofDigits? rest).map fun n => -Int.ofNat n
  | '+' :: rest => (ofDigits? rest).map Int.ofNat
  | s => (ofDigits? s).map Int.ofNat

/-- An unsigned decimal with optional point and exponent. -/
def readDecimal? (s : List Char) : Option Float := do
  let mantissa := s.takeWhile fun c => c != 'e' && c != 'E'
  let exponent ← match s.drop mantissa.length with
    | [] => some 0
    | _ :: rest => readExponent? rest
  let whole := mantissa.takeWhile (· != '.')
  let fraction ← match mantissa.drop whole.length with
    | [] => some []
    | _ :: rest => some rest
  let digits ← ofDigits? (whole ++ fraction)
  return ofDecimal digits (exponent - fraction.length)

/-- An unsigned number: a decimal, or one of the names. -/
def readMagnitude? (s : List Char) : Option Float :=
  let name := String.ofList (s.map Char.toLower)
  if name = "inf" || name = "infinity" then some (1 / 0)
  else if name = "nan" then some (0 / 0)
  else readDecimal? s

/-- The number that a text denotes. -/
def readFloat? : List Char → Option Float
  | '-' :: rest => (readMagnitude? rest).map (- ·)
  | '+' :: rest => readMagnitude? rest
  | s => readMagnitude? s

end Telemetry.Text
