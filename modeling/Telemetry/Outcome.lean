import Telemetry.Text.Blank
import Telemetry.Text.Quoted

/-!
# Outcomes

Whether a transaction or span succeeded. An outcome that was never determined is unknown.

## Main definitions

* `Outcome`, `Outcome.name`, `Outcome.parse`.
* `Outcome.ofServerStatus`: a request that was answered with a status code; only server errors are
  failures.
* `Outcome.ofClientStatus`: a call that came back with a status code; every error is a failure.
-/

namespace Telemetry

/-- Whether an operation succeeded. -/
inductive Outcome
  | success
  | failure
  | unknown
  deriving DecidableEq, Repr, Inhabited

namespace Outcome

/-- The name of an outcome. -/
def name : Outcome → String
  | .success => "success"
  | .failure => "failure"
  | .unknown => "unknown"

/-- The outcome of a request that was answered with a status code. -/
def ofServerStatus (code : Nat) : Outcome :=
  if code ≥ 500 then .failure else .success

/-- The outcome of a call that came back with a status code. -/
def ofClientStatus (code : Nat) : Outcome :=
  if code ≥ 400 then .failure else .success

/-- The outcome with a name, in any ASCII case and with white space around it; or the complaint. -/
def parse (s : String) : Except String Outcome :=
  let text := String.ofList ((Text.trim s.toList).map Char.toLower)
  match [success, failure, unknown].find? (·.name == text) with
  | some outcome => .ok outcome
  | none => .error ("unknown outcome " ++ Text.quote text)

end Outcome

end Telemetry
