import Telemetry.Proofs.Agent.Recognition
import Telemetry.Proofs.Trace.Encodings

/-!
# Callers that introduce themselves in binary

A message queue hands a context on as bytes. A service that reads them and continues the trace sends
headers from then on. Headers have rules that the bytes have not: there is no version `ff`, and
neither the trace nor the caller is zero. The bytes are taken for what they say, with no such rules,
so a context may come in that cannot be handed on.

Whether it can is told by the bytes. The version and the trace are handed on as they came; the
caller is not, since the service puts its own identifiers there.

## Main definitions

* `NamesTrace`, `NamesSpan`: the bytes say nothing that a header cannot.

## Main results

* `TraceParent.exists_parse_header_iff_of_ofBinary?`: which contexts that came in binary can be read
  off a header.
* `Service.binary_caller_readable_iff`: and which of them can be handed on.
* `Service.not_binary_caller_readable_zeroTrace`: one that cannot.
-/

namespace Telemetry

variable {bytes : List UInt8}

/-- The version is none of those that a header must not have, and the trace is not zero. -/
def NamesTrace (bytes : List UInt8) : Prop :=
  bytes.head? ≠ some 0xff ∧ ∃ b ∈ (bytes.drop 2).take 16, b ≠ 0

/-- The caller is not zero. -/
def NamesSpan (bytes : List UInt8) : Prop := ∃ b ∈ (bytes.drop 19).take 8, b ≠ 0

instance (bytes : List UInt8) : Decidable (NamesTrace bytes) :=
  inferInstanceAs (Decidable (bytes.head? ≠ some 0xff ∧ ∃ b ∈ (bytes.drop 2).take 16, b ≠ 0))

instance (bytes : List UInt8) : Decidable (NamesSpan bytes) :=
  inferInstanceAs (Decidable (∃ b ∈ (bytes.drop 19).take 8, b ≠ 0))

/-! ### What the bytes say -/

theorem exists_ne_zero_iff : (∃ b ∈ bytes, b ≠ 0) ↔ ofBigEndian bytes ≠ 0 := by
  simp [ofBigEndian_eq_zero_iff]

theorem TraceId.isValid_ofBytes_iff (h : bytes.length = 16) :
    (TraceId.ofBytes bytes).isValid = true ↔ ∃ b ∈ bytes, b ≠ 0 := by
  rw [isValid_iff, toNat_ofBytes h, exists_ne_zero_iff]

theorem SpanId.isValid_ofBytes_iff (h : bytes.length = 8) :
    (SpanId.ofBytes bytes).isValid = true ↔ ∃ b ∈ bytes, b ≠ 0 := by
  rw [isValid_iff, toNat_ofBytes h, exists_ne_zero_iff]

namespace TraceParent

variable {tp : TraceParent}

/-- The bytes of a context tell what a header could not say of it. -/
theorem namesTrace_iff_and_namesSpan_iff (h : ofBinary? bytes = some tp) :
    (NamesTrace bytes ↔ tp.version ≠ 0xff ∧ tp.traceId.isValid = true) ∧
      (NamesSpan bytes ↔ tp.spanId.isValid = true) := by
  obtain ⟨hlength, h₁, h₁₈, h₂₇⟩ := exists_ofBinary?_iff.mp ⟨tp, h⟩
  obtain ⟨version, traceId, spanId, flags, htrace, hspan, rfl⟩ := exists_layout hlength h₁ h₁₈ h₂₇
  rw [ofBinary?_layout htrace hspan] at h
  obtain rfl := Option.some.inj h
  have hrest : traceId.drop 17 = [] := List.drop_eq_nil_of_le (by omega)
  constructor
  · rw [TraceId.isValid_ofBytes_iff htrace, NamesTrace]
    simp [← htrace]
  · rw [SpanId.isValid_ofBytes_iff hspan, NamesSpan]
    simp [List.drop_append, htrace, hrest, ← hspan]

/-- **Which contexts can be read off a header** too: those of which the bytes say nothing that it
cannot. -/
theorem exists_parse_header_iff_of_ofBinary? (h : ofBinary? bytes = some tp)
    (tracestate : Option String) : (∃ again, parse tp.header tracestate = .ok again) ↔
      NamesTrace bytes ∧ NamesSpan bytes := by
  obtain ⟨htrace, hspan⟩ := namesTrace_iff_and_namesSpan_iff h
  rw [exists_parse_header_iff, htrace, hspan, and_assoc]

end TraceParent

namespace Service

variable {a : Agent} {b : TransactionBuilder} {sender : Sender} {caller sent : TraceParent}

/-- What a service sends that continues a trace: the context of its caller, with its own
identifiers in the place of the caller's. -/
theorem exists_eq_withSpanId_of_continues (hcaller : b.caller = some caller)
    (hcontinues : a.config.current.continuation.continues caller = true) (work : List Action)
    (hsent : ((start a b).after work).outbound? sender = some sent) :
    ∃ id, sent = caller.withSpanId id := by
  obtain ⟨t, ht, hcontext⟩ := exists_start_cases a b
  obtain ⟨t', ht', hsame⟩ := exists_after ht work
  obtain ⟨id, rfl⟩ := exists_eq_withSpanId ht' hsent
  rcases hcontext with ⟨caller', hcaller', -, heq⟩ | ⟨hbegins, -⟩
  · obtain rfl : caller = caller' := Option.mem_unique hcaller hcaller'
    refine ⟨id, ?_⟩
    rw [hsame.context, heq]
    rfl
  · exact absurd (hcontinues.symm.trans (hbegins caller hcaller)) (by decide)

/-- **What can be read of a trace that came in binary.** -/
theorem binary_caller_readable_iff (h : TraceParent.ofBinary? bytes = some caller) :
    (∀ tracestate, (∃ again, TraceParent.parse caller.header tracestate = .ok again) ↔
      NamesTrace bytes ∧ NamesSpan bytes) ∧
    (∀ tracestate again, TraceParent.parse caller.header tracestate = .ok again →
      again.version = caller.version ∧ again.traceId = caller.traceId ∧
        again.spanId = caller.spanId ∧ again.flags = caller.flags) ∧
    ∀ (a : Agent) (b : TransactionBuilder) (work : List Action) (sender : Sender)
      (sent : TraceParent), b.caller = some caller →
      a.config.current.continuation.continues caller = true →
      ((start a b).after work).outbound? sender = some sent →
      ((∃ received, TraceParent.parse sent.header sent.tracestate = .ok received) ↔
        NamesTrace bytes ∧ sent.spanId.isValid = true) := by
  refine ⟨TraceParent.exists_parse_header_iff_of_ofBinary? h, fun tracestate again hagain => ?_,
    fun a b work sender sent hcaller hcontinues hsent => ?_⟩
  · obtain ⟨hversion, htrace, hspan⟩ := TraceParent.exists_parse_header_iff.mp ⟨again, hagain⟩
    rw [TraceParent.parse_header_with hversion htrace hspan] at hagain
    obtain rfl := Except.ok.inj hagain
    exact ⟨rfl, rfl, rfl, rfl⟩
  · obtain ⟨id, rfl⟩ := exists_eq_withSpanId_of_continues hcaller hcontinues work hsent
    rw [TraceParent.exists_parse_header_iff, (TraceParent.namesTrace_iff_and_namesSpan_iff h).1,
      and_assoc]
    rfl

/-- The bytes of a context of version 00 that is recorded. -/
def binaryForm (traceId : TraceId) (spanId : SpanId) : List UInt8 :=
  (TraceParent.create traceId spanId true).toBinary

/-- A span of a service that continues a trace calls another service, which can read the header. -/
theorem binary_caller_readable_iff_checkout :
    ∃ caller again sent received,
      TraceParent.ofBinary? (binaryForm (.ofNat 7) (.ofNat 5)) = some caller ∧
      TraceParent.parse caller.header none = .ok again ∧ again.spanId = .ofNat 5 ∧
      ((answering .join caller).after [.beginSpan 0 { name := "checkout" } none]).outbound?
        (.span 0) = some sent ∧
      TraceParent.parse sent.header sent.tracestate = .ok received := by
  have hbinary : TraceParent.ofBinary? (binaryForm (.ofNat 7) (.ofNat 5)) =
      some (.create (.ofNat 7) (.ofNat 5) true) := by
    decide +kernel
  have hsent : ((answering .join (.create (.ofNat 7) (.ofNat 5) true)).after
      [.beginSpan 0 { name := "checkout" } none]).outbound? (.span 0) =
        some (.create (.ofNat 7) (.ofNat 2) true) := by
    decide +kernel
  have hnames : NamesTrace (binaryForm (.ofNat 7) (.ofNat 5)) ∧
      NamesSpan (binaryForm (.ofNat 7) (.ofNat 5)) := by
    decide +kernel
  obtain ⟨hread, hsame, hhanded⟩ := binary_caller_readable_iff hbinary
  obtain ⟨again, hagain⟩ := (hread none).mpr hnames
  obtain ⟨received, hreceived⟩ := (hhanded _ _ _ _ _ rfl rfl hsent).mpr ⟨hnames.1, by decide⟩
  obtain ⟨-, -, hspan, -⟩ := hsame none again hagain
  exact ⟨_, again, _, received, hbinary, hagain, hspan, hsent, hreceived⟩

/-- **A trace that is zero** comes in as bytes, and is handed on in a header that nobody can
read. -/
theorem not_binary_caller_readable_zeroTrace :
    ∃ caller sent, TraceParent.ofBinary? (binaryForm (.ofNat 0) (.ofNat 5)) = some caller ∧
      (∀ tracestate again, TraceParent.parse caller.header tracestate ≠ .ok again) ∧
      (answering .join caller).outbound? .transaction = some sent ∧
      ∀ received, TraceParent.parse sent.header sent.tracestate ≠ .ok received := by
  have hbinary : TraceParent.ofBinary? (binaryForm (.ofNat 0) (.ofNat 5)) =
      some (.create (.ofNat 0) (.ofNat 5) true) := by
    decide +kernel
  have hsent : (answering .join (.create (.ofNat 0) (.ofNat 5) true)).outbound? .transaction =
      some (.create (.ofNat 0) (.ofNat 1) true) := by
    decide +kernel
  have hzero (id : SpanId) (tracestate : Option String) (again : TraceParent) :
      TraceParent.parse (TraceParent.create (.ofNat 0) id true).header tracestate ≠ .ok again := by
    intro h
    have hinvalid : (TraceId.ofNat 0).isValid = false := by decide
    have hvalid : (TraceId.ofNat 0).isValid = true :=
      (TraceParent.exists_parse_header_iff.mp ⟨again, h⟩).2.1
    exact Bool.false_ne_true (hinvalid.symm.trans hvalid)
  exact ⟨_, _, hbinary, hzero (.ofNat 5), hsent, hzero (.ofNat 1) _⟩

end Service

end Telemetry
