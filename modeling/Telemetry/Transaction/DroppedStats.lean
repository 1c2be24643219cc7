import Telemetry.Event.Record

/-!
# Statistics of dropped spans

For each pair of destination and outcome, how many spans were dropped and how long they took
together. There is room for a fixed number of pairs; what falls under further pairs is not kept.

Sums are exact. `DroppedStats.overflows` says when a clock could not represent one.

## Main definitions

* `DroppedStats`, `DroppedStats.track`.
-/

namespace Telemetry

/-- The statistics, in the order in which their pairs first occurred. -/
abbrev DroppedStats := List DroppedSpanStat

namespace DroppedStats

/-- So many pairs of destination and outcome are kept. -/
def capacity : Nat := 128

/-- The entry is for the pair. -/
def isFor (resource : String) (outcome : Outcome) (s : DroppedSpanStat) : Bool :=
  s.resource = resource && s.outcome = outcome

/-- The statistics with `count` more spans that took `sum` together. -/
def track (resource : String) (outcome : Outcome) (count : Nat) (sum : Duration)
    (stats : DroppedStats) : DroppedStats :=
  if stats.any (isFor resource outcome) then
    stats.map fun s =>
      if isFor resource outcome s then { s with count := s.count + count, sum := s.sum + sum }
      else s
  else if stats.length < capacity then stats ++ [⟨resource, outcome, count, sum⟩]
  else stats

/-- Tracking computes a sum longer than a clock can represent. -/
def overflows (resource : String) (outcome : Outcome) (sum : Duration) (stats : DroppedStats) :
    Bool :=
  stats.any fun s => isFor resource outcome s && s.sum + sum > Duration.longest

end DroppedStats

end Telemetry
