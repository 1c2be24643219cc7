import Telemetry.Redaction.Glob
import Telemetry.Text.Blank
import Telemetry.Text.Lowercase

/-!
# Sensitive field names

A set of wildcard patterns that names are compared with, without regard to case and to white space
around them. Patterns that are blank match nothing.

## Main definitions

* `FieldMatcher`, `FieldMatcher.ofPatterns`, `FieldMatcher.hits`.
-/

namespace Telemetry

open Text

/-- Patterns for field names, in the form they are compared in. -/
structure FieldMatcher where
  patterns : List (List Char)
  deriving DecidableEq

namespace FieldMatcher

/-- The form in which names and patterns are compared. -/
def normalize (name : List Char) : List Char := lowercase (trim name)

/-- The matcher for a list of patterns. -/
def ofPatterns (patterns : List String) : FieldMatcher :=
  ⟨(patterns.map fun p => normalize p.toList).filter (!·.isEmpty)⟩

/-- Some pattern fits the name. -/
def hits (m : FieldMatcher) (name : List Char) : Bool :=
  let name := normalize name
  m.patterns.any (Glob.fits · name)

end FieldMatcher

end Telemetry
