import Telemetry.Decimal.Layout
import Telemetry.Json.Basic
import Telemetry.Text.Hex

/-!
# Compact JSON text

The text of a value on one line, without blanks. Strings escape the quote, the backslash and the
characters below the space, and nothing else; so the text of any value has no character below the
space, whatever the value holds. A number that JSON cannot express is written as `null`.

## Main definitions

* `Json.write`: the text of a value, as characters.
* `Json.compact`: the same as a string.
-/

namespace Telemetry

namespace Json

/-- A character as it stands inside a string. -/
def escapeChar (c : Char) : List Char :=
  if c = '"' then ['\\', '"']
  else if c = '\\' then ['\\', '\\']
  else if c = '\x08' then ['\\', 'b']
  else if c = '\x0c' then ['\\', 'f']
  else if c = '\n' then ['\\', 'n']
  else if c = '\r' then ['\\', 'r']
  else if c = '\t' then ['\\', 't']
  else if c.toNat < 0x20 then ['\\', 'u'] ++ Text.hexFixed 4 c.toNat
  else [c]

/-- A string in quotes. -/
def writeString (s : String) : List Char :=
  '"' :: (s.toList.flatMap escapeChar ++ ['"'])

/-- A number. -/
def writeNumber : Number → List Char
  | .int n => (if n < 0 then ['-'] else []) ++ Nat.toDigits 10 n.natAbs
  | .float x => if x.isFinite then jsonLayout.write x else ['n', 'u', 'l', 'l']

mutual

/-- The text of a value. -/
def write : Json → List Char
  | .null => ['n', 'u', 'l', 'l']
  | .bool true => ['t', 'r', 'u', 'e']
  | .bool false => ['f', 'a', 'l', 's', 'e']
  | .num n => writeNumber n
  | .str s => writeString s
  | .arr items => '[' :: (writeItems items ++ [']'])
  | .obj fields => '\x7b' :: (writeFields fields ++ ['\x7d'])

/-- Items with commas between them. -/
def writeItems : List Json → List Char
  | [] => []
  | [v] => v.write
  | v :: w :: rest => v.write ++ ',' :: writeItems (w :: rest)

/-- Fields with commas between them. -/
def writeFields : List (String × Json) → List Char
  | [] => []
  | [(k, v)] => writeString k ++ ':' :: v.write
  | (k, v) :: f :: rest => writeString k ++ ':' :: (v.write ++ ',' :: writeFields (f :: rest))

end

/-- The text of a value as a string. -/
def compact (v : Json) : String :=
  String.ofList v.write

end Json

end Telemetry
