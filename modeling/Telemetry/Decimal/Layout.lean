import Telemetry.Decimal.Shortest

/-!
# How numbers are written

Two layouts turn the digits of a number into text. Event lines use `jsonLayout`: plain positional
notation for leading digits from `10 ^ -5` to `10 ^ 15`, always with a point, and an exponent with
its sign outside that range. Headers and settings use `plainLayout`: positional notation always,
with a point only where there are fractional digits.

## Main definitions

* `Layout`: the decisions a layout makes.
* `Layout.write`: the text of a finite number.
* `plainText`: the text of any number in `plainLayout`.
-/

namespace Telemetry

/-- The decisions that turn a number into text. -/
structure Layout where
  /-- Positional notation is used for this exponent of the leading digit. -/
  positional : Int → Bool
  /-- A whole number in positional notation keeps a point and a zero. -/
  wholePoint : Bool
  /-- Which of two equally short and near decimals is written. -/
  tie : Tie

/-- Numbers in event lines. -/
def jsonLayout : Layout where
  positional e := -5 ≤ e && e ≤ 15
  wholePoint := true
  tie := .toEven

/-- Numbers in headers and settings. -/
def plainLayout : Layout where
  positional _ := true
  wholePoint := false
  tie := .upward

namespace Layout

/-- Digits with a point after the first `places` of them, or with zeros filled in where `places`
lies outside the digits. -/
def writePositional (l : Layout) (digits : List Char) (places : Int) : List Char :=
  if places ≤ 0 then ['0', '.'] ++ List.replicate (-places).toNat '0' ++ digits
  else
    let whole := digits.take places.toNat
    let zeros := List.replicate (places.toNat - digits.length) '0'
    match digits.drop places.toNat with
    | [] => whole ++ zeros ++ if l.wholePoint then ['.', '0'] else []
    | fraction => whole ++ '.' :: fraction

/-- One digit, the rest after a point, and the exponent with its sign. -/
def writeScientific (digits : List Char) (e : Int) : List Char :=
  let sign := if e < 0 then '-' else '+'
  let fraction := match digits.drop 1 with
    | [] => []
    | rest => '.' :: rest
  digits.take 1 ++ fraction ++ ['e', sign] ++ Nat.toDigits 10 e.natAbs

/-- The text of a positive decimal. -/
def writeDecimal (l : Layout) (d : Decimal) : List Char :=
  let digits := Nat.toDigits 10 d.digits
  let leading := d.exponent + digits.length - 1
  if l.positional leading then l.writePositional digits (leading + 1)
  else writeScientific digits leading

/-- The text of a finite number. -/
def write (l : Layout) (x : Float) : List Char :=
  let sign := if x.toBits.toNat / Nat.pow 2 63 = 1 then ['-'] else []
  match Binary.ofBits? x.toBits with
  | some b => sign ++ l.writeDecimal (b.shortest l.tie)
  | none => sign ++ if l.wholePoint then ['0', '.', '0'] else ['0']

end Layout

/-- The text of a number outside event lines; the infinities and the missing number have names. -/
def plainText (x : Float) : String :=
  if x.isNaN then "NaN"
  else if x.isInf then (if x < 0 then "-inf" else "inf")
  else String.ofList (plainLayout.write x)

end Telemetry
