/-!
# Tables of code point ranges

A property of characters that a standard lists is kept as closed ranges of code points. The tables
beside this module start at `0x80`; below it each property states its own rule, so that evaluating
it on ASCII never walks a table.
-/

namespace Telemetry.Text

/-- Some range of the table holds the code point. -/
def inRanges (ranges : List (Nat × Nat)) (code : Nat) : Bool :=
  ranges.any fun r => r.1 ≤ code && code ≤ r.2

theorem inRanges_iff {ranges : List (Nat × Nat)} {code : Nat} :
    inRanges ranges code ↔ ∃ r ∈ ranges, r.1 ≤ code ∧ code ≤ r.2 := by
  simp [inRanges]

end Telemetry.Text
