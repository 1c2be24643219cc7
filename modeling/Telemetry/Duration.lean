/-!
# Durations and instants

Durations are whole nanoseconds. Arithmetic on them is exact; a clock cannot represent every sum,
and `Duration.longest` is the longest duration that it can. Instants are nanoseconds on a clock
whose origin does not matter; they may lie before it.

## Main definitions

* `Duration`, `Instant`, `Instant.since`.
* `Duration.millis`, `Duration.micros`, `Duration.text`: how durations are reported.
-/

namespace Telemetry

/-- A length of time in nanoseconds. -/
abbrev Duration := Nat

/-- A point on a clock, in nanoseconds from its origin. -/
abbrev Instant := Int

/-- The time from `earlier` to `later`; zero if they are the other way round. -/
def Instant.since (later earlier : Instant) : Duration := (later - earlier).toNat

namespace Duration

/-- The longest duration that a clock can represent: seconds fill a word of 64 bits. -/
def longest : Duration := UInt64.size * 1000000000 - 1

/-- So many microseconds. -/
def ofMicros (n : Nat) : Duration := n * 1000

/-- So many milliseconds. -/
def ofMillis (n : Nat) : Duration := n * 1000000

/-- So many seconds. -/
def ofSeconds (n : Nat) : Duration := n * 1000000000

/-- Milliseconds, with a fraction. -/
def millis (d : Duration) : Float := Float.ofNat d / 1000000

/-- Whole microseconds. -/
def micros (d : Duration) : Nat := d / 1000

/-- The digits after the point of `rest` units of which `10 ^ places` make one, without the zeros
at their end. -/
def fraction (places rest : Nat) : List Char :=
  let digits := Nat.toDigits 10 rest
  let padded := List.replicate (places - digits.length) '0' ++ digits
  match (padded.reverse.dropWhile (· == '0')).reverse with
  | [] => []
  | kept => '.' :: kept

/-- A duration in the largest unit of which it holds at least one, in messages. -/
def text (d : Duration) : String :=
  let write (places : Nat) (unit : String) : String :=
    toString (d / Nat.pow 10 places) ++
      String.ofList (fraction places (d % Nat.pow 10 places)) ++ unit
  if d ≥ 1000000000 then write 9 "s"
  else if d ≥ 1000000 then write 6 "ms"
  else if d ≥ 1000 then write 3 "µs"
  else write 0 "ns"

end Duration

end Telemetry
