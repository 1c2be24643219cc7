import Telemetry.Decimal.Reader
import Telemetry.Json.Basic
import Telemetry.Text.Hex

/-!
# Reading JSON text

A whole number that fits a signed or an unsigned word of 64 bits stays whole; every other number
is a double. Of several fields with one key the last wins. Blanks between the tokens are skipped.

The readers take the text still to be read and return what is left of it. Their first argument
bounds the number of nested calls; the length of the text is always enough.

## Main definitions

* `Json.ofText?`: the value that a text denotes.
-/

namespace Telemetry

namespace Json

/-- The text from its first significant character on. -/
def skipBlanks (s : List Char) : List Char :=
  s.dropWhile fun c => c = ' ' || c = '\n' || c = '\r' || c = '\t'

/-- Four hexadecimal digits and the rest. -/
def readUnit? : List Char → Option (Nat × List Char)
  | a :: b :: c :: d :: rest => (Text.ofHexDigits? [a, b, c, d]).map (·, rest)
  | _ => none

/-- The character that a number escape stands for; a character beyond the first plane takes two. -/
def readEscaped? (s : List Char) : Option (Char × List Char) :=
  match readUnit? s with
  | none => none
  | some (high, rest) =>
    if 0xd800 ≤ high && high < 0xdc00 then
      match rest with
      | '\\' :: 'u' :: tail =>
        match readUnit? tail with
        | some (low, rest') =>
          if 0xdc00 ≤ low && low < 0xe000 then
            some (Char.ofNat (0x10000 + (high - 0xd800) * 0x400 + (low - 0xdc00)), rest')
          else none
        | none => none
      | _ => none
    else if 0xdc00 ≤ high && high < 0xe000 then none
    else some (Char.ofNat high, rest)

/-- The rest of a string after its opening quote; `acc` holds what was read, in reverse. -/
def readString? (acc : List Char) : Nat → List Char → Option (String × List Char)
  | 0, _ => none
  | _ + 1, [] => none
  | _ + 1, '"' :: rest => some (String.ofList acc.reverse, rest)
  | n + 1, '\\' :: 'u' :: rest =>
    match readEscaped? rest with
    | some (c, rest') => readString? (c :: acc) n rest'
    | none => none
  | n + 1, '\\' :: c :: rest =>
    let plain? := match c with
      | '"' => some '"'
      | '\\' => some '\\'
      | '/' => some '/'
      | 'b' => some '\x08'
      | 'f' => some '\x0c'
      | 'n' => some '\n'
      | 'r' => some '\r'
      | 't' => some '\t'
      | _ => none
    match plain? with
    | some c => readString? (c :: acc) n rest
    | none => none
  | n + 1, c :: rest => if c.toNat < 0x20 then none else readString? (c :: acc) n rest

/-- The number that a token denotes. Zero with a minus sign is a double, as no whole number keeps
its sign. -/
def ofNumberToken? (token : List Char) : Option Number :=
  let negative := token.head? = some '-'
  match Text.ofDigits? (if negative then token.drop 1 else token) with
  | some n =>
    if negative && 0 < n && n ≤ UInt64.size / 2 then some (.int (-Int.ofNat n))
    else if !negative && n < UInt64.size then some (.int n)
    else (Text.readFloat? token).map .float
  | none => (Text.readFloat? token).map .float

/-- The characters a number is made of. -/
def isNumberChar (c : Char) : Bool :=
  c.isDigit || c = '-' || c = '+' || c = '.' || c = 'e' || c = 'E'

mutual

/-- A value and the rest. -/
def readValue? : Nat → List Char → Option (Json × List Char)
  | 0, _ => none
  | n + 1, s =>
    match skipBlanks s with
    | 'n' :: 'u' :: 'l' :: 'l' :: rest => some (.null, rest)
    | 't' :: 'r' :: 'u' :: 'e' :: rest => some (.bool true, rest)
    | 'f' :: 'a' :: 'l' :: 's' :: 'e' :: rest => some (.bool false, rest)
    | '"' :: rest => (readString? [] n rest).map fun (s, r) => (.str s, r)
    | '[' :: rest =>
      match skipBlanks rest with
      | ']' :: rest' => some (.arr [], rest')
      | rest' => (readItems? n [] rest').map fun (items, r) => (.arr items, r)
    | '\x7b' :: rest =>
      match skipBlanks rest with
      | '\x7d' :: rest' => some (.obj [], rest')
      | rest' => (readFields? n [] rest').map fun (fields, r) => (.obj fields, r)
    | s =>
      let token := s.takeWhile isNumberChar
      (ofNumberToken? token).map fun x => (.num x, s.drop token.length)

/-- Items up to the closing bracket; `acc` holds the items before, in reverse. -/
def readItems? : Nat → List Json → List Char → Option (List Json × List Char)
  | 0, _, _ => none
  | n + 1, acc, s =>
    match readValue? n s with
    | none => none
    | some (v, rest) =>
      match skipBlanks rest with
      | ',' :: rest' => readItems? n (v :: acc) rest'
      | ']' :: rest' => some ((v :: acc).reverse, rest')
      | _ => none

/-- Fields up to the closing brace, added to those of `acc`. -/
def readFields? : Nat → Fields → List Char → Option (Fields × List Char)
  | 0, _, _ => none
  | n + 1, acc, s =>
    match skipBlanks s with
    | '"' :: rest =>
      match readString? [] n rest with
      | none => none
      | some (key, rest) =>
        match skipBlanks rest with
        | ':' :: rest =>
          match readValue? n rest with
          | none => none
          | some (v, rest) =>
            match skipBlanks rest with
            | ',' :: rest' => readFields? n (acc.set key v) rest'
            | '\x7d' :: rest' => some (acc.set key v, rest')
            | _ => none
        | _ => none
    | _ => none

end

/-- The value that a text denotes, with nothing but blanks around it. -/
def ofText? (text : String) : Option Json :=
  let s := text.toList
  match readValue? (2 * s.length + 2) s with
  | some (v, rest) => if (skipBlanks rest).isEmpty then some v else none
  | none => none

end Json

end Telemetry
