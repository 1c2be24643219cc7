import Telemetry.Trace.Propagation

/-!
# A trace context survives being handed on

A context is written with digits of full width and read back digit by digit, so nothing is lost on
the way. The state travels as text. It arrives unchanged if it has no white space at its ends, and
its entries arrive with it if they are the ones that the text has.

## Main definitions

* `TraceParent.Sendable`: what a context must be like to arrive as it is.

## Main results

* `TraceParent.parse_header`: reading undoes writing.
* `TraceParent.extract_inject`: so does taking the context out of headers that it was put into.
-/

namespace Telemetry

namespace Text

/-! ### Texts without white space -/

theorem dropWhile_isBlank {s : List Char} (h : ∀ c ∈ s, isBlank c = false) :
    s.dropWhile isBlank = s := by
  cases s with
  | nil => rfl
  | cons c rest => rw [List.dropWhile_cons, h c List.mem_cons_self, if_neg Bool.false_ne_true]

/-- Where there is no white space none is cut off. -/
theorem trim_of_forall_not_isBlank {s : List Char} (h : ∀ c ∈ s, isBlank c = false) :
    trim s = s := by
  have hreverse : ∀ c ∈ s.reverse, isBlank c = false := fun c hc => h c (List.mem_reverse.mp hc)
  rw [trim, trimStart, dropWhile_isBlank h, trimEnd, dropWhile_isBlank hreverse,
    List.reverse_reverse]

/-! ### Digits of full width -/

theorem isLowerHex_hexDigit {n : Nat} (h : n < 16) : isLowerHex 1 [hexDigit n] = true := by
  revert n
  decide

theorem isBlank_hexDigit {n : Nat} (h : n < 16) : isBlank (hexDigit n) = false := by
  revert n
  decide

theorem hexDigit_ne_dash {n : Nat} (h : n < 16) : hexDigit n ≠ '-' := by
  revert n
  decide

/-- The digits of a number are digits of some values. -/
theorem exists_of_mem_hexFixed {width n : Nat} {c : Char} (h : c ∈ hexFixed width n) :
    ∃ d < 16, c = hexDigit d := by
  induction width generalizing n with
  | zero => simp [hexFixed] at h
  | succ width ih =>
    rw [hexFixed, List.mem_append, List.mem_singleton] at h
    rcases h with h | h
    · exact ih h
    · exact ⟨n % 16, Nat.mod_lt n (by decide), h⟩

theorem isLowerHex_hexFixed (width n : Nat) : isLowerHex width (hexFixed width n) = true := by
  simp only [isLowerHex, length_hexFixed, beq_self_eq_true, Bool.true_and, List.all_eq_true]
  intro c hc
  obtain ⟨d, hd, rfl⟩ := exists_of_mem_hexFixed hc
  simpa [isLowerHex] using isLowerHex_hexDigit hd

theorem isBlank_of_mem_hexFixed {width n : Nat} {c : Char} (h : c ∈ hexFixed width n) :
    isBlank c = false := by
  obtain ⟨d, hd, rfl⟩ := exists_of_mem_hexFixed h
  exact isBlank_hexDigit hd

theorem dash_not_mem_hexFixed (width n : Nat) : '-' ∉ hexFixed width n := by
  intro h
  obtain ⟨d, hd, hdash⟩ := exists_of_mem_hexFixed h
  exact hexDigit_ne_dash hd hdash.symm

end Text

/-! ### Identifiers -/

theorem TraceId.isValid_iff {id : TraceId} : id.isValid = true ↔ id.toNat ≠ 0 := by
  simp [isValid, toNat, BitVec.toNat_eq]

theorem SpanId.isValid_iff {id : SpanId} : id.isValid = true ↔ id.toNat ≠ 0 := by
  simp [isValid, toNat, BitVec.toNat_eq]

open Text

namespace TraceParent

variable {tp : TraceParent}

/-! ### The header -/

/-- A number that fits is read back from its digits. -/
theorem readField?_hexFixed {width n : Nat} (h : n < Nat.pow 16 width) :
    readField? width (hexFixed width n) = some n := by
  rw [readField?, isLowerHex_hexFixed, if_pos rfl, ofHexDigits?_hexFixed h]

/-- The four fields of the header. -/
def fields (tp : TraceParent) : List (List Char) :=
  [hexFixed 2 tp.version.toNat, tp.traceId.digits, tp.spanId.digits,
    hexFixed 2 tp.flags.byte.toNat]

theorem headerChars_eq (tp : TraceParent) : tp.headerChars = ['-'].intercalate tp.fields := by
  simp [headerChars, fields, List.intercalate]

theorem mem_hexFixed_of_mem_fields {field : List Char} (h : field ∈ tp.fields) :
    ∃ width n, field = hexFixed width n := by
  simp only [fields, List.mem_cons, List.not_mem_nil, or_false] at h
  rcases h with h | h | h | h
  · exact ⟨2, _, h⟩
  · exact ⟨32, _, h⟩
  · exact ⟨16, _, h⟩
  · exact ⟨2, _, h⟩

theorem splitOn_headerChars (tp : TraceParent) : tp.headerChars.splitOn '-' = tp.fields := by
  rw [headerChars_eq]
  refine List.splitOn_intercalate '-' (fun field hfield => ?_) (List.cons_ne_nil _ _)
  obtain ⟨width, n, rfl⟩ := mem_hexFixed_of_mem_fields hfield
  exact dash_not_mem_hexFixed width n

theorem trim_headerChars (tp : TraceParent) : trim tp.headerChars = tp.headerChars := by
  refine trim_of_forall_not_isBlank fun c hc => ?_
  simp only [headerChars, TraceId.digits, SpanId.digits, List.mem_append, List.mem_cons] at hc
  rcases hc with h | rfl | h | rfl | h | rfl | h
  · exact isBlank_of_mem_hexFixed h
  · decide
  · exact isBlank_of_mem_hexFixed h
  · decide
  · exact isBlank_of_mem_hexFixed h
  · decide
  · exact isBlank_of_mem_hexFixed h

/-- What a context must be like to arrive as it is: there is such a version, the identifiers stand
for something, the state has no white space at its ends, and the entries are those of the state. -/
structure Sendable (tp : TraceParent) : Prop where
  version : tp.version ≠ 0xff
  traceId : tp.traceId.isValid = true
  spanId : tp.spanId.isValid = true
  state : readState tp.tracestate = tp.tracestate
  entries : tp.entries = (tp.tracestate.map Vendor.entriesOf).getD []

theorem readField?_version (h : tp.version ≠ 0xff) :
    (readField? 2 (hexFixed 2 tp.version.toNat)).filter (· ≠ 0xff) = some tp.version.toNat := by
  have hne : tp.version.toNat ≠ 0xff := fun heq => h (UInt8.toNat_inj.mp heq)
  have hlt : tp.version.toNat < Nat.pow 16 2 := tp.version.toNat_lt
  rw [readField?_hexFixed hlt]
  simpa [Option.filter] using hne

theorem readField?_traceId (h : tp.traceId.isValid = true) :
    (readField? 32 tp.traceId.digits).filter (· ≠ 0) = some tp.traceId.toNat := by
  have hne : tp.traceId.toNat ≠ 0 := TraceId.isValid_iff.mp h
  rw [TraceId.digits, readField?_hexFixed (Nat.lt_of_lt_of_eq tp.traceId.toNat_lt (by decide))]
  simpa [Option.filter] using hne

theorem readField?_spanId (h : tp.spanId.isValid = true) :
    (readField? 16 tp.spanId.digits).filter (· ≠ 0) = some tp.spanId.toNat := by
  have hne : tp.spanId.toNat ≠ 0 := SpanId.isValid_iff.mp h
  rw [SpanId.digits, readField?_hexFixed (Nat.lt_of_lt_of_eq tp.spanId.toNat_lt (by decide))]
  simpa [Option.filter] using hne

/-- A header is read as it was written, and the state as it comes with it. -/
theorem parse_header_with (hversion : tp.version ≠ 0xff) (htrace : tp.traceId.isValid = true)
    (hspan : tp.spanId.isValid = true) (tracestate : Option String) :
    parse tp.header tracestate = .ok { tp with
      tracestate := readState tracestate
      entries := ((readState tracestate).map Vendor.entriesOf).getD [] } := by
  have hflags : tp.flags.byte.toNat < Nat.pow 16 2 := tp.flags.byte.toNat_lt
  rw [parse, header, String.toList_ofList, trim_headerChars, splitOn_headerChars, fields, ofFields]
  simp only [readField?_version hversion, readField?_traceId htrace, readField?_spanId hspan,
    readField?_hexFixed hflags, ne_eq, not_true_eq_false, and_false, if_false,
    TraceId.ofNat_toNat, SpanId.ofNat_toNat, UInt8.ofNat_toNat]

/-- **Reading undoes writing.** -/
theorem parse_header (h : tp.Sendable) : parse tp.header tp.tracestate = .ok tp := by
  rw [parse_header_with h.version h.traceId h.spanId, h.state, ← h.entries]

/-! ### The headers -/

theorem get?_inject_traceParent (tp : TraceParent) (headers : Headers) (legacy : Bool) :
    (tp.inject headers legacy).get? traceParentHeader = some tp.header := by
  have hother : traceParentHeader ≠ traceStateHeader := by decide
  simp only [inject]
  cases tp.tracestate with
  | none => exact Headers.get?_set_self _ _ _
  | some state => exact (Headers.get?_set_of_ne hother _ _).trans (Headers.get?_set_self _ _ _)

theorem get?_inject_traceState (tp : TraceParent) (headers : Headers) (legacy : Bool) :
    (tp.inject headers legacy).get? traceStateHeader =
      tp.tracestate.or (headers.get? traceStateHeader) := by
  have hlegacy : traceStateHeader ≠ legacyTraceParentHeader := by decide
  have hother : traceStateHeader ≠ traceParentHeader := by decide
  simp only [inject]
  cases tp.tracestate with
  | none =>
    refine (Headers.get?_set_of_ne hother _ _).trans ?_
    cases legacy with
    | false => rfl
    | true => exact Headers.get?_set_of_ne hlegacy _ _
  | some state => exact Headers.get?_set_self _ _ _

theorem joinValues_toList (value : Option String) : joinValues value.toList = value := by
  cases value with
  | none => rfl
  | some v => simp [joinValues]

/-- **Extraction undoes injection** into headers that hold no state of another context. -/
theorem extract_inject (h : tp.Sendable) {headers : Headers}
    (hstate : tp.tracestate = none → headers.get? traceStateHeader = none) (legacy : Bool) :
    extract (tp.inject headers legacy).carrier = (some tp, []) := by
  have harrives : tp.tracestate.or (headers.get? traceStateHeader) = tp.tracestate := by
    cases htp : tp.tracestate with
    | none => rw [hstate htp]; rfl
    | some state => rfl
  simp only [extract, Headers.carrier, get?_inject_traceParent, get?_inject_traceState, harrives,
    joinValues_toList, Option.toList_some, List.head?_cons, Option.some_or, receive,
    parse_header h]

end TraceParent

end Telemetry
