import Telemetry.Config.Basic
import Telemetry.Decimal.Reader
import Telemetry.Notice
import Telemetry.Text.Quoted

/-!
# Settings from the environment

Each setting has a variable. A variable that is not set leaves the default in place, and so does one
whose value makes no sense; in the second case a notice names the variable, its value and the
complaint. Variables are read in the order of `Setting.all`.

## Main definitions

* `Environment`, `InvalidSetting`.
* `readDuration`, `readRate`, `readSwitch`: the kinds of values.
* `Setting`, `Setting.all`: the variables.
* `Config.ofEnvironment`: the settings, and the notices about values that were passed over.
-/

namespace Telemetry

open Text

/-- Variables and their values. -/
abbrev Environment := List (String × String)

/-- The value of a variable. -/
def Environment.value? (env : Environment) (key : String) : Option String :=
  (env.find? (·.1 == key)).map (·.2)

/-- A value that makes no sense for a setting. -/
structure InvalidSetting where
  key : String
  value : String
  deriving DecidableEq, Repr

/-- The wording of the complaint. -/
def InvalidSetting.message (e : InvalidSetting) : String :=
  "invalid value " ++ quote e.value ++ " for " ++ e.key

/-- A variable was passed over. -/
def Notice.invalidSetting (key value : String) (error : InvalidSetting) : Notice :=
  ⟨.warn, "Config.InvalidValue",
    [("key", .text key), ("value", .text value), ("error", .text error.message)]⟩

/-- The text in the form in which words are recognised: trimmed, in lower case. -/
def normalizeWord (value : String) : List Char :=
  (trim value.toList).map Char.toLower

/-- The items of a list with commas, trimmed, without the empty ones. -/
def readList (value : String) : List String :=
  (((value.toList.splitOn ',').map trim).filter (!·.isEmpty)).map String.ofList

/-- A switch that is on or off. -/
def readSwitch (value : String) : Option Bool :=
  let word := String.ofList (normalizeWord value)
  if ["true", "1", "yes", "on"].contains word then some true
  else if ["false", "0", "no", "off"].contains word then some false
  else none

/-- A whole number in a signed word of 64 bits. -/
def readCount (value : String) : Option Int :=
  readInt? (UInt64.size / 2) (trim value.toList)

/-- A probability, rounded to four decimal places. -/
def readRate (value : String) : Option Float :=
  ((readFloat? (trim value.toList)).filter fun x => 0 ≤ x && x ≤ 1).map roundRate

/-- The number in front of a unit, and the microseconds in that unit; without a unit a number counts
milliseconds. -/
def splitUnit (s : List Char) : List Char × Float :=
  let back := s.reverse
  if beginsWith ['s', 'u'] back then ((back.drop 2).reverse, 1)
  else if beginsWith ['s', 'm'] back then ((back.drop 2).reverse, 1000)
  else if beginsWith ['s'] back then ((back.drop 1).reverse, 1000000)
  else if beginsWith ['m'] back then ((back.drop 1).reverse, 60000000)
  else (s, 1000)

/-- The microseconds nearest to `x`, which is not negative; at most as many as a word of 64 bits
holds. -/
def saturatingMicros (x : Float) : Duration :=
  .ofMicros x.round.toUInt64.toNat

/-- A duration with an optional minus sign; `true` if the sign is there. -/
def readSignedDuration (value : String) : Option (Bool × Duration) :=
  let (negative, unsigned) := match normalizeWord value with
    | '-' :: rest => (true, rest)
    | s => (false, s)
  let (number, micros) := splitUnit unsigned
  ((readFloat? (trim number)).filter fun x => x.isFinite && !(x < 0)).map fun x =>
    (negative, saturatingMicros (x * micros))

/-- A duration without a minus sign. -/
def readDuration (value : String) : Option Duration :=
  ((readSignedDuration value).filter (!·.1)).map (·.2)

/-- The strategy with a name. -/
def Continuation.ofName? (value : String) : Option Continuation :=
  [join, restart, restartExternal].find? fun c => c.name.toList == normalizeWord value

/-- The variable of the continuation strategy. -/
def Continuation.variable : String := "APM_AGENT_TRACE_CONTINUATION_STRATEGY"

/-- The strategy with a name, or the complaint. -/
def Continuation.parse (value : String) : Except InvalidSetting Continuation :=
  match ofName? value with
  | some c => .ok c
  | none => .error ⟨Continuation.variable, value⟩

/-- The processor with a name, or the complaint. -/
def Processor.parse (name : String) : Except InvalidSetting Processor :=
  match ofName? name with
  | some p => .ok p
  | none => .error ⟨"processor", name⟩

/-- A variable, and what its value changes. -/
structure Setting where
  key : String
  read : String → Except InvalidSetting (Config → Config)

namespace Setting

/-- A setting whose values are read by `read`; what it does not read is refused as it stands. -/
def of {α : Type} (key : String) (read : String → Option α) (put : α → Config → Config) :
    Setting where
  key := key
  read value := match read value with
    | some a => .ok (put a)
    | none => .error ⟨key, value⟩

/-- The settings, in the order in which they are read. A negative number of spans means no limit, as
zero does, and a negative number of frames means as many as a word holds. -/
def all : List Setting := [
  of "APM_AGENT_TRANSACTION_SAMPLE_RATE" readRate fun x c => { c with sampleRate := x },
  of "APM_AGENT_TRANSACTION_MAX_SPANS" readCount fun n c => { c with maxSpans := n.toNat },
  of "APM_AGENT_SPAN_COMPRESSION_ENABLED" readSwitch fun b c => { c with compression := b },
  of "APM_AGENT_SPAN_COMPRESSION_EXACT_MATCH_MAX_DURATION" readDuration fun d c =>
    { c with exactMatchMax := d },
  of "APM_AGENT_SPAN_COMPRESSION_SAME_KIND_MAX_DURATION" readDuration fun d c =>
    { c with sameKindMax := d },
  of "APM_AGENT_SPAN_STACK_TRACE_MIN_DURATION" readSignedDuration fun d c =>
    { c with stackTraceMin := if d.1 then none else some d.2 },
  of "APM_AGENT_EXIT_SPAN_MIN_DURATION" readDuration fun d c => { c with exitSpanMin := d },
  { key := Continuation.variable
    read value := (Continuation.parse value).map fun s c => { c with continuation := s } },
  of "APM_AGENT_STACK_TRACE_LIMIT" readCount fun n c =>
    { c with stackTraceLimit := if n < 0 then UInt64.size - 1 else n.toNat },
  of "APM_AGENT_SANITIZE_FIELD_NAMES" (fun v => some (readList v)) fun names c =>
    { c with sensitiveFields := names },
  { key := "APM_AGENT_PROCESSORS"
    read value := ((readList value).mapM Processor.parse).map fun ps c =>
      { c with processors := ps } },
  of "APM_AGENT_USE_LEGACY_TRACEPARENT_HEADER" readSwitch fun b c => { c with legacyHeader := b }]

/-- The settings after one variable was looked at, with the notices so far. -/
def apply (env : Environment) (state : Config × List Notice) (s : Setting) :
    Config × List Notice :=
  match env.value? s.key with
  | none => state
  | some value =>
    match s.read value with
    | .ok change => (change state.1, state.2)
    | .error e => (state.1, state.2 ++ [.invalidSetting s.key value e])

end Setting

/-- The settings that an environment describes. -/
def Config.ofEnvironment (env : Environment) : Config × List Notice :=
  Setting.all.foldl (Setting.apply env) ({}, [])

end Telemetry
