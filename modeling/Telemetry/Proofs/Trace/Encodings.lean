import Telemetry.Proofs.Text.Trimming
import Telemetry.Proofs.Trace.HeaderGrammar

/-!
# Both encodings of a trace context can be undone

A context is sent as a header of 55 characters, or as 29 bytes. Both are of fixed width, so each
context has one written form, and it is read back from there. The state is in neither of them: it
travels next to the header, and not at all with the bytes.

The two formats differ in what they accept. Any bytes with the right markers are the written form
of a context. A header may come with white space around it and with more after the options, and the
written form is what it begins with.

## Main results

* `TraceParent.eq_headerChars_append`: an accepted header begins with the written form.
* `TraceParent.ofBinary?_toBinary`, `TraceParent.toBinary_of_ofBinary?`: the bytes, both ways.
* `TraceParent.encodings_round_trip`.
-/

namespace Telemetry

/-! ### Numbers as bytes -/

variable {bytes : List UInt8}

theorem ofBigEndian_lt (bytes : List UInt8) : ofBigEndian bytes < Nat.pow 256 bytes.length := by
  induction bytes using List.reverseRecOn with
  | nil => decide
  | append_singleton bytes b ih =>
    have hb : b.toNat < 256 := b.toNat_lt
    have hpow : Nat.pow 256 (bytes.length + 1) = Nat.pow 256 bytes.length * 256 := rfl
    rw [ofBigEndian_append_singleton, List.length_append, List.length_singleton, hpow]
    omega

/-- Encoding the number of some bytes gives them back. -/
theorem bigEndian_ofBigEndian (bytes : List UInt8) :
    bigEndian bytes.length (ofBigEndian bytes) = bytes := by
  induction bytes using List.reverseRecOn with
  | nil => rfl
  | append_singleton bytes b ih =>
    have hb : b.toNat < 256 := b.toNat_lt
    have hdiv : (256 * ofBigEndian bytes + b.toNat) / 256 = ofBigEndian bytes := by omega
    have hmod : (256 * ofBigEndian bytes + b.toNat) % 256 = b.toNat := by omega
    rw [ofBigEndian_append_singleton, List.length_append, List.length_singleton, bigEndian, hdiv,
      hmod, ih, UInt8.ofNat_toNat]

theorem TraceId.toNat_ofBytes (h : bytes.length = 16) :
    (TraceId.ofBytes bytes).toNat = ofBigEndian bytes := by
  have hlt : ofBigEndian bytes < Nat.pow 2 128 :=
    Nat.lt_of_lt_of_eq (ofBigEndian_lt bytes) (by rw [h])
  exact (BitVec.toNat_ofNat ..).trans (Nat.mod_eq_of_lt hlt)

theorem SpanId.toNat_ofBytes (h : bytes.length = 8) :
    (SpanId.ofBytes bytes).toNat = ofBigEndian bytes := by
  have hlt : ofBigEndian bytes < Nat.pow 2 64 :=
    Nat.lt_of_lt_of_eq (ofBigEndian_lt bytes) (by rw [h])
  exact (BitVec.toNat_ofNat ..).trans (Nat.mod_eq_of_lt hlt)

theorem TraceId.toBytes_ofBytes (h : bytes.length = 16) :
    (TraceId.ofBytes bytes).toBytes = bytes := by
  rw [TraceId.toBytes, toNat_ofBytes h, ← h, bigEndian_ofBigEndian]

theorem SpanId.toBytes_ofBytes (h : bytes.length = 8) :
    (SpanId.ofBytes bytes).toBytes = bytes := by
  rw [SpanId.toBytes, toNat_ofBytes h, ← h, bigEndian_ofBigEndian]

/-- The number of some bytes is zero if all of them are. -/
theorem ofBigEndian_eq_zero_iff : ofBigEndian bytes = 0 ↔ ∀ b ∈ bytes, b = 0 := by
  induction bytes using List.reverseRecOn with
  | nil => simp [ofBigEndian]
  | append_singleton bytes b ih =>
    have hlast : b.toNat = 0 ↔ b = 0 := UInt8.toNat_inj (b := 0)
    rw [ofBigEndian_append_singleton, List.forall_mem_append, List.forall_mem_singleton, ← ih,
      ← hlast]
    omega

open Text

namespace TraceParent

variable {tp : TraceParent} {header : String} {tracestate : Option String}

/-! ### Headers -/

/-- **An accepted header begins with the written form** of what is read off it. -/
theorem eq_headerChars_append (h : parse header tracestate = .ok tp) :
    ∃ rest, trim header.toList = tp.headerChars ++ rest := by
  have hheader := (isHeader_of_parse h).1
  generalize hv : tp.version.toNat = v at hheader
  generalize ht : tp.traceId.toNat = t at hheader
  generalize hs : tp.spanId.toNat = s at hheader
  generalize hf : tp.flags.byte.toNat = f at hheader
  generalize trim header.toList = text at hheader
  obtain @⟨version, traceId, spanId, flags, rest, _, _, _, _, hversion, -, htrace, -, hspan, -,
    hflags, -⟩ := hheader
  refine ⟨rest, ?_⟩
  rw [headerChars, TraceId.digits, SpanId.digits, hv, ht, hs, hf, ← hversion.eq_hexFixed.1,
    ← htrace.eq_hexFixed.1, ← hspan.eq_hexFixed.1, ← hflags.eq_hexFixed.1]
  simp

theorem length_headerChars (tp : TraceParent) : tp.headerChars.length = 55 := by
  simp [headerChars, TraceId.digits, SpanId.digits]

/-- White space is taken off the state once. -/
theorem readState_readState (tracestate : Option String) :
    readState (readState tracestate) = readState tracestate := by
  cases tracestate with
  | none => rfl
  | some state =>
    by_cases hempty : (trim state.toList).isEmpty
    · simp [readState, Option.filter, hempty]
    · simp [readState, Option.filter, hempty]

/-- What was read off a header is read off its written form, with the state as it came or as it was
kept. -/
theorem parse_header_of_parse (h : parse header tracestate = .ok tp) :
    parse tp.header tracestate = .ok tp ∧ parse tp.header tp.tracestate = .ok tp := by
  obtain ⟨hversion, htrace, hspan⟩ := isValid_of_parse h
  obtain ⟨hstate, hentries⟩ := state_of_parse h
  rw [parse_header_with hversion htrace hspan, parse_header_with hversion htrace hspan, hstate,
    readState_readState, ← hentries, ← hstate]
  exact ⟨rfl, rfl⟩

/-! ### Bytes -/

theorem drop_of_getElem?_eq_some {n : Nat} {b : UInt8} (h : bytes[n]? = some b) :
    bytes.drop n = b :: bytes.drop (n + 1) := by
  obtain ⟨hlt, rfl⟩ := List.getElem?_eq_some_iff.mp h
  exact List.drop_eq_getElem_cons hlt

/-- Bytes with the right markers are a version, a trace, a span and options. -/
theorem exists_layout (hlength : bytes.length = 29) (h₁ : bytes[1]? = some 0)
    (h₁₈ : bytes[18]? = some 1) (h₂₇ : bytes[27]? = some 2) :
    ∃ version traceId spanId flags, traceId.length = 16 ∧ spanId.length = 8 ∧
      bytes = version :: 0 :: (traceId ++ 1 :: (spanId ++ [2, flags])) := by
  have hversion : bytes.drop 0 = bytes[0] :: bytes.drop 1 := List.drop_eq_getElem_cons (by omega)
  have htrace : bytes.drop 2 = (bytes.drop 2).take 16 ++ bytes.drop 18 := by
    rw [← List.drop_drop (i := 16) (j := 2), List.take_append_drop]
  have hspan : bytes.drop 19 = (bytes.drop 19).take 8 ++ bytes.drop 27 := by
    rw [← List.drop_drop (i := 8) (j := 19), List.take_append_drop]
  have hflags : bytes.drop 28 = [bytes[28]] := by
    rw [List.drop_eq_getElem_cons (by omega), List.drop_eq_nil_of_le (by omega)]
  refine ⟨bytes[0], (bytes.drop 2).take 16, (bytes.drop 19).take 8, bytes[28], ?_, ?_, ?_⟩
  · rw [List.length_take, List.length_drop, hlength]
    rfl
  · rw [List.length_take, List.length_drop, hlength]
    rfl
  · rw [← hflags, ← drop_of_getElem?_eq_some h₂₇, ← hspan, ← drop_of_getElem?_eq_some h₁₈,
      ← htrace, ← drop_of_getElem?_eq_some h₁, ← hversion, List.drop_zero]

theorem ofBinary?_layout {version flags : UInt8} {traceId spanId : List UInt8}
    (htrace : traceId.length = 16) (hspan : spanId.length = 8) :
    ofBinary? (version :: 0 :: (traceId ++ 1 :: (spanId ++ [2, flags]))) =
      some { version, traceId := .ofBytes traceId, spanId := .ofBytes spanId, flags := ⟨flags⟩,
             tracestate := none, entries := [] } := by
  have hlast : (version :: 0 :: (traceId ++ 1 :: (spanId ++ [2, flags]))).getLastD 0 = flags := by
    simp [List.getLastD_eq_getLast?, List.getLast?_cons, List.getLast?_append]
  have hrest : traceId.drop 17 = [] := List.drop_eq_nil_of_le (by omega)
  rw [ofBinary?, if_pos (by simp [htrace, hspan]), hlast]
  simp [htrace, hspan, List.drop_append, hrest]

/-- **What was written as bytes is read back**, but for the state. -/
theorem ofBinary?_toBinary (tp : TraceParent) :
    ofBinary? tp.toBinary = some { tp with tracestate := none, entries := [] } := by
  have htrace : tp.traceId.toBytes.length = 16 := length_bigEndian ..
  have hspan : tp.spanId.toBytes.length = 8 := length_bigEndian ..
  rw [toBinary, ofBinary?_layout htrace hspan, TraceId.ofBytes_toBytes, SpanId.ofBytes_toBytes]

theorem exists_ofBinary?_iff : (∃ tp, ofBinary? bytes = some tp) ↔
    bytes.length = 29 ∧ bytes[1]? = some 0 ∧ bytes[18]? = some 1 ∧ bytes[27]? = some 2 := by
  rw [ofBinary?]
  split
  · rename_i hmarkers
    exact ⟨fun _ => hmarkers, fun _ => ⟨_, rfl⟩⟩
  · rename_i hmarkers
    exact ⟨fun ⟨_, h⟩ => (nomatch h), fun h => absurd h hmarkers⟩

/-- **Bytes that are read are those that are written.** -/
theorem toBinary_of_ofBinary? (h : ofBinary? bytes = some tp) : tp.toBinary = bytes := by
  obtain ⟨hlength, h₁, h₁₈, h₂₇⟩ := exists_ofBinary?_iff.mp ⟨tp, h⟩
  obtain ⟨version, traceId, spanId, flags, htrace, hspan, rfl⟩ := exists_layout hlength h₁ h₁₈ h₂₇
  rw [ofBinary?_layout htrace hspan] at h
  obtain rfl := Option.some.inj h
  rw [toBinary, TraceId.toBytes_ofBytes htrace, SpanId.toBytes_ofBytes hspan]

/-! ### Both ways -/

/-- **Both encodings can be undone.** An accepted header begins with what is written for it, which
is read as the same context; a context that a header can name is read back from its header, and any
context from its bytes, but for the state; and bytes are read if they are marked as such, which are
the ones that are written. -/
theorem encodings_round_trip :
    (∀ header tracestate tp, parse header tracestate = .ok tp →
      tp.header.toList = (trim header.toList).take 55 ∧
        parse tp.header tracestate = .ok tp ∧ parse tp.header tp.tracestate = .ok tp) ∧
    (∀ (tp : TraceParent) (tracestate : Option String), tp.version ≠ 0xff →
      tp.traceId.isValid = true → tp.spanId.isValid = true → ∃ again,
        parse tp.header tracestate = .ok again ∧ again.version = tp.version ∧
        again.traceId = tp.traceId ∧ again.spanId = tp.spanId ∧ again.flags = tp.flags) ∧
    (∀ tp : TraceParent,
      ofBinary? tp.toBinary = some { tp with tracestate := none, entries := [] }) ∧
    ∀ bytes, ((∃ tp, ofBinary? bytes = some tp) ↔
        bytes.length = 29 ∧ bytes[1]? = some 0 ∧ bytes[18]? = some 1 ∧ bytes[27]? = some 2) ∧
      ∀ tp, ofBinary? bytes = some tp → tp.toBinary = bytes := by
  refine ⟨fun header tracestate tp h => ⟨?_, parse_header_of_parse h⟩,
    fun tp tracestate hversion htrace hspan => ?_, ofBinary?_toBinary,
    fun bytes => ⟨exists_ofBinary?_iff, fun tp => toBinary_of_ofBinary?⟩⟩
  · obtain ⟨rest, hheader⟩ := eq_headerChars_append h
    rw [TraceParent.header, String.toList_ofList, hheader, ← tp.length_headerChars, List.take_left]
  · exact ⟨_, parse_header_with hversion htrace hspan tracestate, rfl, rfl, rfl, rfl⟩

theorem encodings_round_trip_laterHeader :
    ∃ tp, parse laterHeader (some " es=s:0.5 ") = .ok tp ∧
      tp.header.toList = (trim laterHeader.toList).take 55 ∧
      parse tp.header tp.tracestate = .ok tp ∧
      (∃ again, parse tp.header none = .ok again ∧ again.flags = tp.flags) ∧
      ∃ again, ofBinary? tp.toBinary = some again ∧ again.toBinary = tp.toBinary := by
  have hlater : parse laterHeader (some " es=s:0.5 ") =
      .ok (ofNumbers 2 0x0af7651916cd43dd8448eb211c80319c 0xb7ad6b7169203331 9
        (some " es=s:0.5 ")) := by
    decide +kernel
  obtain ⟨hheaders, hcontexts, hwritten, hbytes⟩ := encodings_round_trip
  obtain ⟨hbegins, -, hagain⟩ := hheaders _ _ _ hlater
  obtain ⟨hversion, htrace, hspan⟩ := isValid_of_parse hlater
  obtain ⟨again, hparse, -, -, -, hflags⟩ := hcontexts _ none hversion htrace hspan
  exact ⟨_, hlater, hbegins, hagain, ⟨again, hparse, hflags⟩, _, hwritten _,
    (hbytes _).2 _ (hwritten _)⟩

end TraceParent

end Telemetry
