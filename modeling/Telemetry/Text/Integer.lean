import Telemetry.Text.Hex

/-!
# Decimal integers

Whole numbers in base 10, with an optional sign and nothing else around the digits.

## Main definitions

* `ofDigits?`: the number that a text of ASCII digits denotes.
* `readNat?`: a number below a bound, with an optional plus sign.
* `readInt?`: a number within the bounds of a signed word, with an optional sign.
-/

namespace Telemetry.Text

/-- The number that a non-empty text of ASCII digits denotes. -/
def ofDigits? (s : List Char) : Option Nat :=
  if s.isEmpty || !s.all Char.isDigit then none
  else some (s.foldl (fun n c => 10 * n + (c.toNat - 48)) 0)

/-- A number below `bound`, with an optional plus sign. -/
def readNat? (bound : Nat) (s : List Char) : Option Nat :=
  let digits := match s with
    | '+' :: rest => rest
    | s => s
  (ofDigits? digits).filter (· < bound)

/-- A number from `-half` up to, but not including, `half`, with an optional sign. -/
def readInt? (half : Nat) : List Char → Option Int
  | '-' :: rest => ((ofDigits? rest).filter (· ≤ half)).map fun n => -Int.ofNat n
  | s => (readNat? half s).map Int.ofNat

end Telemetry.Text
