import Telemetry.Text.Blank
import Telemetry.Text.Integer
import Telemetry.Text.Split

/-!
# Stack traces

A rendered backtrace numbers its frames, and may follow a frame with a line that says where it is:

```text
   0: my_app::handler
             at ./src/handler.rs:42:9
```

Lines of any other form are passed over. A location belongs to the frame line before it. Frames of
the agent itself are left out, and their locations with them.

## Main definitions

* `Frame`: a frame of a stack.
* `Backtrace.Line`, `Backtrace.readLine`: what one line says.
* `Backtrace.group`: frame lines with the locations that follow them.
* `Backtrace.frames`: the first frames of a rendered backtrace.
* `culprit`: the innermost function of the application.
-/

namespace Telemetry

open Text

/-- A frame of a stack. -/
structure Frame where
  function : String
  filename : Option String
  absPath : Option String
  line : Option Nat
  /-- The frame belongs to a library, not to the application. -/
  library : Bool
  deriving DecidableEq, Repr

namespace Backtrace

/-- What a line of a rendered backtrace says. -/
inductive Line
  | frame (function : List Char)
  | location (place : List Char)
  | other
  deriving DecidableEq, Repr

/-- What a line says. -/
def readLine (line : List Char) : Line :=
  match trimStart line with
  | 'a' :: 't' :: ' ' :: place => .location place
  | s =>
    match afterText? [':', ' '] s with
    | none => .other
    | some function =>
      let number := s.take (s.length - function.length - 2)
      if !number.isEmpty && number.all Char.isDigit then .frame (trim function) else .other

/-- Frame lines with the locations that follow them, up to the next frame line. -/
def group : List Line → List (List Char × List (List Char))
  | [] => []
  | .frame function :: rest =>
    let places := (rest.takeWhile fun l => match l with
      | .frame _ => false
      | _ => true).filterMap fun
      | .location place => some place
      | _ => none
    (function, places) :: group rest
  | _ :: rest => group rest

/-- Functions of the agent begin with one of these. -/
def agentFunctions : List String :=
  ["apm_agent::", "std::backtrace", "<apm_agent::"]

/-- Functions of libraries begin with one of these. -/
def libraryFunctions : List String :=
  ["std::", "core::", "alloc::", "<std::", "<core::", "<alloc::", "tokio::", "futures_", "__rust",
    "__libc", "_start"]

/-- The function begins with one of the given texts. -/
def beginsWithAny (starts : List String) (function : List Char) : Bool :=
  starts.any fun s => beginsWith s.toList function

/-- A location in its parts: the path, and the line if there is one. The last two of the texts
between colons are line and column; a path may have colons of its own. -/
def readPlace (place : List Char) : List Char × Option Nat :=
  match splitOnceLast? ':' place with
  | none => (place, none)
  | some (front, _) =>
    match splitOnceLast? ':' front with
    | none => (place, none)
    | some (path, line) => (path, readNat? UInt32.size line)

/-- The part of a path after its last separator; absent if that is empty. -/
def fileName (path : List Char) : Option String :=
  let name := (path.reverse.takeWhile fun c => c != '/' && c != '\\').reverse
  if name.isEmpty then none else some (String.ofList name)

/-- The frame with a location put on it. -/
def locate (f : Frame) (place : List Char) : Frame :=
  let (path, line) := readPlace place
  { f with
    filename := fileName path
    absPath := some (String.ofList path)
    line := line
    library := f.library || containsText "/rustc/".toList path ||
      containsText ".cargo/registry".toList path }

/-- The frame of a function with its locations; a later location wins. -/
def toFrame (function : List Char) (places : List (List Char)) : Frame :=
  places.foldl locate
    { function := String.ofList function
      filename := none
      absPath := none
      line := none
      library := beginsWithAny libraryFunctions function }

/-- The first `limit` frames of a rendered backtrace that are not the agent's own. -/
def frames (text : String) (limit : Nat) : List Frame :=
  let groups := group ((lines text.toList).map readLine)
  ((groups.filter fun g => !beginsWithAny agentFunctions g.1).take limit).map fun g =>
    toFrame g.1 g.2

end Backtrace

/-- The innermost function of the application. -/
def culprit (frames : List Frame) : Option String :=
  (frames.find? (!·.library)).map (·.function)

end Telemetry
