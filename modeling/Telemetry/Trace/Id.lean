import Telemetry.Bytes
import Telemetry.Text.Hex

/-!
# Identifiers

A trace has an identifier of 128 bits that all its events share; transactions and spans have
identifiers of 64 bits from one common space. Both are written as lower-case hexadecimal digits of
full width. The zero identifier is not valid: it stands for the absence of one.

## Main definitions

* `TraceId`, `SpanId`: the identifiers, with their text (`toHex`), their bytes (`toBytes`,
  `ofBytes`) and `isValid`.
* `TraceId.parse`, `SpanId.parse`: the identifier that a text of hexadecimal digits denotes.
-/

namespace Telemetry

open Text

/-- The identifier of a trace. -/
structure TraceId where
  bits : BitVec 128
  deriving DecidableEq

/-- The identifier of a transaction or a span. -/
structure SpanId where
  bits : BitVec 64
  deriving DecidableEq

namespace TraceId

/-- The identifier with a number, reduced to 128 bits. -/
def ofNat (n : Nat) : TraceId := ⟨BitVec.ofNat 128 n⟩

/-- The number of an identifier. -/
def toNat (id : TraceId) : Nat := id.bits.toNat

/-- Some bit is set. -/
def isValid (id : TraceId) : Bool := id.bits != 0

/-- The 32 digits of the identifier. -/
def digits (id : TraceId) : List Char := hexFixed 32 id.toNat

/-- The written form of the identifier. -/
def toHex (id : TraceId) : String := String.ofList id.digits

/-- The sixteen bytes of the identifier. -/
def toBytes (id : TraceId) : List UInt8 := bigEndian 16 id.toNat

/-- The identifier with the given sixteen bytes. -/
def ofBytes (bytes : List UInt8) : TraceId := ofNat (ofBigEndian bytes)

/-- The identifier that a text denotes: digits of either case, as few as one. -/
def parse (s : List Char) : Except DigitError TraceId :=
  (readHex (Nat.pow 2 128) s).map ofNat

end TraceId

namespace SpanId

/-- The identifier with a number, reduced to 64 bits. -/
def ofNat (n : Nat) : SpanId := ⟨BitVec.ofNat 64 n⟩

/-- The number of an identifier. -/
def toNat (id : SpanId) : Nat := id.bits.toNat

/-- Some bit is set. -/
def isValid (id : SpanId) : Bool := id.bits != 0

/-- The 16 digits of the identifier. -/
def digits (id : SpanId) : List Char := hexFixed 16 id.toNat

/-- The written form of the identifier. -/
def toHex (id : SpanId) : String := String.ofList id.digits

/-- The eight bytes of the identifier. -/
def toBytes (id : SpanId) : List UInt8 := bigEndian 8 id.toNat

/-- The identifier with the given eight bytes. -/
def ofBytes (bytes : List UInt8) : SpanId := ofNat (ofBigEndian bytes)

/-- The identifier that a text denotes: digits of either case, as few as one. -/
def parse (s : List Char) : Except DigitError SpanId :=
  (readHex (Nat.pow 2 64) s).map ofNat

end SpanId

instance : Inhabited TraceId := ⟨TraceId.ofNat 0⟩

instance : Inhabited SpanId := ⟨SpanId.ofNat 0⟩

/-! ### Round trips -/

@[simp]
theorem TraceId.ofNat_toNat (id : TraceId) : TraceId.ofNat id.toNat = id := by
  simp [TraceId.ofNat, TraceId.toNat]

@[simp]
theorem SpanId.ofNat_toNat (id : SpanId) : SpanId.ofNat id.toNat = id := by
  simp [SpanId.ofNat, SpanId.toNat]

theorem TraceId.toNat_lt (id : TraceId) : id.toNat < Nat.pow 2 128 := id.bits.isLt

theorem SpanId.toNat_lt (id : SpanId) : id.toNat < Nat.pow 2 64 := id.bits.isLt

@[simp]
theorem TraceId.ofBytes_toBytes (id : TraceId) : TraceId.ofBytes id.toBytes = id := by
  rw [ofBytes, toBytes, ofBigEndian_bigEndian,
    Nat.mod_eq_of_lt (Nat.lt_of_lt_of_eq id.toNat_lt (by decide)), ofNat_toNat]

@[simp]
theorem SpanId.ofBytes_toBytes (id : SpanId) : SpanId.ofBytes id.toBytes = id := by
  rw [ofBytes, toBytes, ofBigEndian_bigEndian,
    Nat.mod_eq_of_lt (Nat.lt_of_lt_of_eq id.toNat_lt (by decide)), ofNat_toNat]

theorem TraceId.ofHexDigits?_digits (id : TraceId) : ofHexDigits? id.digits = some id.toNat :=
  ofHexDigits?_hexFixed (Nat.lt_of_lt_of_eq id.toNat_lt (by decide))

theorem SpanId.ofHexDigits?_digits (id : SpanId) : ofHexDigits? id.digits = some id.toNat :=
  ofHexDigits?_hexFixed (Nat.lt_of_lt_of_eq id.toNat_lt (by decide))

end Telemetry
