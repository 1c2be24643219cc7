import Telemetry.Text.Hex
import Telemetry.Text.Printable

/-!
# Quoted texts in messages

Messages quote the text they complain about, so that its ends and its invisible characters show.
Quotes and backslashes are escaped, the four common controls have a letter, and every other hidden
character is written by number.

## Main definitions

* `quoteChar`, `quote`: the quoted form of a character and of a text.
-/

namespace Telemetry.Text

/-- A character as it stands in a quoted text. -/
def quoteChar (c : Char) : List Char :=
  if c == '"' then ['\\', '"']
  else if c == '\\' then ['\\', '\\']
  else if c == '\t' then ['\\', 't']
  else if c == '\n' then ['\\', 'n']
  else if c == '\r' then ['\\', 'r']
  else if c == '\x00' then ['\\', '0']
  else if isHidden c then ['\\', 'u', '\x7b'] ++ hexShort c.toNat ++ ['\x7d']
  else [c]

/-- A text in quotes. -/
def quote (s : String) : String :=
  String.ofList ('"' :: (s.toList.flatMap quoteChar ++ ['"']))

end Telemetry.Text
