import Telemetry.Decimal.Reader
import Telemetry.Text.Blank
import Telemetry.Text.Quoted
import Telemetry.Text.Split

/-!
# The agent's part of the trace state

The state header is a list of members `key=value` with commas between them. The member with the key
`es` is the agent's own; its value is a list of entries `key:value` with semicolons between them.
Entries are read from every member with that key, in order, and white space around keys and values
is dropped.

Adding an entry takes earlier entries of its key away and puts the new one last. It is refused when
a character of it could not be told from the punctuation around it, or when the value of the member
would grow past its limit; then nothing changes.

## Main definitions

* `Vendor.Entry`, `Vendor.entriesOf`: the entries of a state header.
* `Vendor.render`: the value of the agent's member.
* `Vendor.add`: the state header and entries with one more entry, or why not.
-/

namespace Telemetry.Vendor

open Text

/-- An entry `key:value`. -/
abbrev Entry := String × String

/-- The key of the agent's own member. -/
def memberKey : List Char := ['e', 's']

/-- The key of the entry that holds the sample rate. -/
def sampleRateKey : String := "s"

/-- The agent's member takes at most so many bytes after its key. -/
def sizeLimit : Nat := 256

/-- The entries in the value of a member. -/
def entriesOfValue (value : List Char) : List Entry :=
  (value.splitOn ';').filterMap fun entry =>
    (splitOnce? ':' entry).map fun p => (String.ofList (trim p.1), String.ofList (trim p.2))

/-- The entries of one member, if it is the agent's. -/
def entriesOfMember (member : List Char) : List Entry :=
  match splitOnce? '=' (trim member) with
  | some (key, value) => if trim key = memberKey then entriesOfValue value else []
  | none => []

/-- The agent's entries in a state header, in order. -/
def entriesOf (tracestate : String) : List Entry :=
  (tracestate.toList.splitOn ',').flatMap entriesOfMember

/-- The value of the agent's member. -/
def render (entries : List Entry) : String :=
  String.intercalate ";" (entries.map fun e => e.1 ++ ":" ++ e.2)

/-- The key of a member: what stands before the first `=`, or all of it. -/
def keyOf (member : List Char) : List Char :=
  trim (((splitOnce? '=' member).map (·.1)).getD member)

/-- The members of other vendors in a state header, in order. -/
def otherMembers (tracestate : String) : List String :=
  ((tracestate.toList.splitOn ',').map trim).filter
    (fun m => !m.isEmpty && keyOf m ≠ memberKey) |>.map String.ofList

/-- A printable ASCII character that is not punctuation of the header. -/
def isEntryChar (c : Char) : Bool :=
  ' ' ≤ c && c ≤ '~' && c != ':' && c != ';' && c != ',' && c != '='

/-- Why an entry is refused. -/
inductive Error
  | invalidCharacter (part : String)
  | tooLong (size : Nat)
  deriving DecidableEq, Repr

/-- The wording of a refusal. -/
def Error.message : Error → String
  | .invalidCharacter part =>
    "tracestate entry " ++ quote part ++ " contains an invalid character"
  | .tooLong n => s!"vendor tracestate would be {n} characters long"

/-- The entries with `value` under `key`, as the last of them. -/
def replace (entries : List Entry) (key value : String) : List Entry :=
  entries.filter (·.1 ≠ key) ++ [(key, value)]

/-- The state header with the given entries as its first member. -/
def stateWith (tracestate : Option String) (entries : List Entry) : String :=
  String.intercalate "," (("es=" ++ render entries) :: (tracestate.map otherMembers).getD [])

/-- The state header and the entries after adding one. -/
def add (tracestate : Option String) (entries : List Entry) (key value : String) :
    Except Error (String × List Entry) :=
  if !key.toList.all isEntryChar then .error (.invalidCharacter key)
  else if !value.toList.all isEntryChar then .error (.invalidCharacter value)
  else
    let entries := replace entries key value
    let size := (render entries).utf8ByteSize
    if size > sizeLimit then .error (.tooLong size)
    else .ok (stateWith tracestate entries, entries)

end Telemetry.Vendor
