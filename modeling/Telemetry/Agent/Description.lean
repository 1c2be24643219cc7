import Telemetry.Agent.Basic
import Telemetry.Text.Quoted

/-!
# Descriptions of handles

One line that identifies a transaction, a span or a context to a person who is looking for a
mistake. Descriptions show what a handle stands for, also after it has ended.

## Main definitions

* `describe`: a name with its attributes.
* `Transaction.describe`, `Agent.describeSpan`, `Agent.describeContext`.
-/

namespace Telemetry

/-- A name with its attributes in braces. -/
def describe (name : String) (attributes : List (String × String)) : String :=
  name ++ " \x7b " ++
    String.intercalate ", " (attributes.map fun (key, value) => key ++ ": " ++ value) ++ " \x7d"

/-- A value that may be missing. -/
def describeOption (value : Option String) : String :=
  match value with
  | some s => "Some(" ++ s ++ ")"
  | none => "None"

/-- The line for a transaction. -/
def Transaction.describe (t : Transaction) : String :=
  Telemetry.describe "Transaction" [("id", t.id.toHex), ("type", Text.quote t.kind),
    ("sampled", toString t.sampled), ("ended", toString t.ended)]

namespace Agent

/-- The line for a span. -/
def describeSpan (a : Agent) (h : SpanHandle) : String :=
  match a.span? h with
  | some s =>
    "Recording(" ++ describe "Span" [("id", s.id.toHex),
      ("parent_id", ((a.parentId? h).getD default).toHex), ("leaf", toString s.leaf),
      ("ended", toString s.ended)] ++ ")"
  | none =>
    "Dropped(" ++ describe "DroppedSpan" [("reason", (a.dropReason h).name),
      ("resource", describeOption (((a.standIn? h).bind (·.resource)).map Text.quote))] ++ ")"

/-- The line for a context. A span that is not recorded does not show. -/
def describeContext (a : Agent) (c : Context) : String :=
  describe "Context" [
    ("transaction", describeOption ((c.transaction.bind a.transaction?).map (·.id.toHex))),
    ("span", describeOption ((c.span.bind a.spanId?).map SpanId.toHex))]

end Agent

end Telemetry
