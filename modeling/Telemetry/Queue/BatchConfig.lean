import Telemetry.Config.Environment

/-!
# Settings of the batch queue

How many events wait, how many are exported at once, how long they wait at most, and how long a
caller waits for an export. The values can be set freely; building takes them to where they make
sense: there is room for at least one event, and a batch holds at least one event and no more than
the queue.

## Main definitions

* `BatchSettings`, `BatchSettings.ofEnvironment`: the values as they were set.
* `BatchConfig`, `BatchSettings.build`: the values as they are used.
-/

namespace Telemetry

open Text

/-- The values as they were set. -/
structure BatchSettings where
  maxQueueSize : Nat := 2048
  delay : Duration := .ofMillis 1000
  maxBatchSize : Nat := 512
  timeout : Duration := .ofMillis 10000
  deriving DecidableEq, Repr

/-- The values as they are used. -/
structure BatchConfig where
  maxQueueSize : Nat
  delay : Duration
  maxBatchSize : Nat
  timeout : Duration
  deriving DecidableEq, Repr

/-- A variable of the batch queue was passed over. -/
def Notice.invalidBatchSetting (key value : String) : Notice :=
  ⟨.warn, "BatchConfig.InvalidEnvValue", [("key", .text key), ("value", .text value)]⟩

namespace BatchSettings

/-- The values that make sense. -/
def build (s : BatchSettings) : BatchConfig where
  maxQueueSize := max s.maxQueueSize 1
  delay := s.delay
  maxBatchSize := min (max s.maxBatchSize 1) (max s.maxQueueSize 1)
  timeout := s.timeout

/-- The variables, and what their values change. Times are in milliseconds. -/
def all : List (String × (Nat → BatchSettings → BatchSettings)) := [
  ("APM_AGENT_QUEUE_MAX_SIZE", fun n s => { s with maxQueueSize := n }),
  ("APM_AGENT_QUEUE_FLUSH_INTERVAL", fun n s => { s with delay := .ofMillis n }),
  ("APM_AGENT_QUEUE_MAX_BATCH_SIZE", fun n s => { s with maxBatchSize := n }),
  ("APM_AGENT_QUEUE_EXPORT_TIMEOUT", fun n s => { s with timeout := .ofMillis n })]

/-- The values after one variable was looked at, with the notices so far. -/
def apply (env : Environment) (state : BatchSettings × List Notice)
    (v : String × (Nat → BatchSettings → BatchSettings)) : BatchSettings × List Notice :=
  match env.value? v.1 with
  | none => state
  | some value =>
    match readNat? UInt64.size (trim value.toList) with
    | some n => (v.2 n state.1, state.2)
    | none => (state.1, state.2 ++ [.invalidBatchSetting v.1 value])

/-- The values that an environment sets. -/
def ofEnvironment (env : Environment) : BatchSettings × List Notice :=
  all.foldl (apply env) ({}, [])

end BatchSettings

/-- A batch holds at least one event, and no more than fit into the queue. -/
theorem BatchSettings.build_bounds (s : BatchSettings) :
    1 ≤ s.build.maxBatchSize ∧ s.build.maxBatchSize ≤ s.build.maxQueueSize := by
  simp only [build]
  omega

end Telemetry
