/-!
# Notices

What the agent reports about itself: a level, a name and attributes. Notices are values that the
operations return or collect; nothing here prints. Each kind of notice is built next to the rule
that raises it.

## Main definitions

* `Notice`, `Notice.Level`, `Notice.Attribute`.
-/

namespace Telemetry

/-- How much a notice matters. -/
inductive Notice.Level
  | debug
  | info
  | warn
  | error
  deriving DecidableEq, Repr

/-- The name of a level. -/
def Notice.Level.name : Notice.Level → String
  | .debug => "debug"
  | .info => "info"
  | .warn => "warn"
  | .error => "error"

/-- The value of an attribute. -/
inductive Notice.Attribute
  | text (s : String)
  | flag (b : Bool)
  | count (n : Nat)
  deriving DecidableEq, Repr

/-- A report of the agent about itself. -/
structure Notice where
  level : Notice.Level
  name : String
  attributes : List (String × Notice.Attribute)
  deriving DecidableEq, Repr

end Telemetry
