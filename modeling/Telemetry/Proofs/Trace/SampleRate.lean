import Telemetry.Agent.Transactions
import Telemetry.Proofs.Decimal.Fractions
import Telemetry.Proofs.Trace.RoundTrip

/-!
# The sample rate that a new trace carries

A service that begins a trace writes the sample rate into the state, where the services after it
look it up. That the entry is never refused hangs on how rates are written: with digits and a point
alone, and with few of them. So it matters that a rate is rounded before it is used, because the
text of an arbitrary number may be longer than the state allows.

## Main definitions

* `IsRate`: zero, or a probability that is not below the least positive rate.
* `rateState`: the state header with a rate and nothing else.

## Main results

* `roundRate_of_sampled`: whatever is configured, a trace is sampled at such a rate.
* `IsRate.add_sampleRate`: the rate is accepted as an entry.
* `IsRate.entriesOf_rateState`: and it is read back from the state.
* `Agent.newTrace_eq`: the context of a new trace.
-/

namespace Telemetry

open Float.Model (UnpackedFloat)
open Text

/-! ### Comparing rates -/

theorem le_iff_unpack {x y : Float} :
    x ≤ y ↔ x.toModel.unpack.le y.toModel.unpack = true := by
  change decide (Float.Model.le x.toModel y.toModel = true) = true ↔ _
  rw [decide_eq_true_iff]
  rfl

/-- Of two positive numbers the smaller one has no larger exponent. -/
theorem le_of_finite_le {m n : Nat} {e f : Int} {hm : 0 < m} {hn : 0 < n}
    (h : (UnpackedFloat.finite .positive m e hm).le (.finite .positive n f hn) = true) :
    e ≤ f := by
  refine Int.not_lt.mp fun hlt => ?_
  have hgt : compare e f = .gt := Int.compare_eq_gt.mpr hlt
  change (some ((compare e f).then (compare m n))).any (·.isLE) = true at h
  rw [hgt] at h
  exact Bool.false_ne_true h

theorem unpack_leastRate : ∃ m h, leastRate.toModel.unpack = .finite .positive m (-66) h :=
  ⟨_, _, rfl⟩

theorem unpack_one : ∃ m h, (1 : Float).toModel.unpack = .finite .positive m (-52) h :=
  ⟨_, _, rfl⟩

/-- The positive rates are fractions. -/
theorem isFraction_of_le {x : Float} (hlow : leastRate ≤ x) (hhigh : x ≤ 1) : IsFraction x := by
  obtain ⟨m₀, h₀, hleast⟩ := unpack_leastRate
  obtain ⟨m₁, h₁, hone⟩ := unpack_one
  rw [le_iff_unpack, hleast] at hlow
  rw [le_iff_unpack, hone] at hhigh
  unfold IsFraction
  cases hx : x.toModel.unpack with
  | notANumber => rw [hx] at hlow; cases hlow
  | zero s => rw [hx] at hlow; cases hlow
  | infinity s =>
    rw [hx] at hlow hhigh
    cases s with
    | negative => cases hlow
    | positive => cases hhigh
  | finite s m e h =>
    rw [hx] at hlow hhigh
    cases s with
    | negative => cases hlow
    | positive => exact ⟨m, e, h, rfl, le_of_finite_le hlow, le_of_finite_le hhigh⟩

/-! ### Rates -/

/-- Zero, or a probability that is not below the least positive rate. -/
def IsRate (x : Float) : Prop := x = 0 ∨ leastRate ≤ x ∧ x ≤ 1

theorem plainText_zero : plainText 0 = "0" := by decide +kernel

namespace IsRate

variable {x : Float}

theorem isProbability (h : IsRate x) : TraceParent.isProbability x = true := by
  rcases h with rfl | ⟨hlow, hhigh⟩
  · decide +kernel
  · obtain ⟨m, e, hm, hx, -, -⟩ := isFraction_of_le hlow hhigh
    have hzero : 0 ≤ x := by
      rw [le_iff_unpack, hx]
      rfl
    simp [TraceParent.isProbability, hzero, hhigh]

theorem length_plainText_le (h : IsRate x) : (plainText x).toList.length ≤ 200 := by
  rcases h with rfl | ⟨hlow, hhigh⟩
  · rw [plainText_zero]
    decide
  · exact (isFraction_of_le hlow hhigh).length_plainText_le

theorem isDigit_or_of_mem_plainText (h : IsRate x) {c : Char} (hc : c ∈ (plainText x).toList) :
    c.isDigit = true ∨ c = '.' := by
  rcases h with rfl | ⟨hlow, hhigh⟩
  · rw [plainText_zero] at hc
    obtain rfl : c = '0' := by simpa using hc
    exact .inl rfl
  · exact (isFraction_of_le hlow hhigh).isDigit_or_of_mem_plainText hc

end IsRate

/-- A positive number is rounded to a positive rate. -/
theorem roundRate_of_pos {rate : Float} (h : rate > 0) :
    leastRate ≤ roundRate rate ∧ roundRate rate ≤ 1 := by
  rw [roundRate, if_pos h]
  dsimp only
  split
  · rename_i hlow
    split
    · rename_i hhigh
      exact ⟨hlow, hhigh⟩
    · decide +kernel
  · decide +kernel

/-- Any other number is rounded to zero, which may have a sign. -/
theorem roundRate_of_not_pos {rate : Float} (h : ¬ rate > 0) : (roundRate rate == 0) = true := by
  rw [roundRate, if_neg h]
  split
  · assumption
  · decide +kernel

/-- Nothing is sampled at zero, whatever its sign. -/
theorem decide_zero (s : Sampler) {rate : Float} (h : (rate == 0) = true) :
    (s.decide rate).1 = false := by
  have hzero : ∃ sign, rate.toModel.unpack = .zero sign := by
    change rate.toModel.unpack.beq (.zero .positive) = true at h
    cases hx : rate.toModel.unpack with
    | zero sign => exact ⟨sign, rfl⟩
    | notANumber => rw [hx] at h; cases h
    | infinity sign => rw [hx] at h; cases sign <;> cases h
    | finite sign => rw [hx] at h; cases sign <;> cases h
  obtain ⟨sign, hx⟩ := hzero
  obtain ⟨m, hm, hone⟩ := unpack_one
  have hbelow : ¬ (1 : Float) ≤ rate := by
    rw [le_iff_unpack, hx, hone]
    exact Bool.false_ne_true
  have hleast : rate ≤ 0 := by
    rw [le_iff_unpack, hx]
    rfl
  simp [Sampler.decide, hbelow, hleast]

/-- A rate at which a trace is sampled is positive. -/
theorem roundRate_of_sampled {s : Sampler} {rate : Float}
    (h : (s.decide (roundRate rate)).1 = true) :
    leastRate ≤ roundRate rate ∧ roundRate rate ≤ 1 := by
  by_cases hpos : rate > 0
  · exact roundRate_of_pos hpos
  · rw [decide_zero s (roundRate_of_not_pos hpos)] at h
    cases h

/-! ### The entry -/

theorem exists_of_isDigit {c : Char} (h : c.isDigit = true) :
    ∃ n < 10, c = Char.ofNat (48 + n) := by
  have hval : 48 ≤ c.toNat ∧ c.toNat ≤ 57 := by
    simpa [Char.isDigit, UInt32.le_iff_toNat_le] using h
  refine ⟨c.toNat - 48, by omega, ?_⟩
  rw [Nat.add_sub_cancel' hval.1, Char.ofNat_toNat]

/-- A text of one byte for each character. -/
theorem utf8ByteSize_ofList {s : List Char} (h : ∀ c ∈ s, c.utf8Size = 1) :
    (String.ofList s).utf8ByteSize = s.length := by
  induction s with
  | nil => rfl
  | cons c rest ih =>
    rw [String.ofList_cons, String.utf8ByteSize_append, String.utf8ByteSize_singleton,
      h c List.mem_cons_self, ih fun c hc => h c (List.mem_cons_of_mem _ hc), List.length_cons,
      Nat.add_comm]

/-- The state header of a trace that is begun at a rate. -/
def rateState (x : Float) : String := "es=s:" ++ plainText x

theorem toList_rateState (x : Float) :
    (rateState x).toList = ['e', 's', '=', 's', ':'] ++ (plainText x).toList := by
  rw [rateState, String.toList_append]
  rfl

/-- What rates are written with is no white space and no punctuation of the state. -/
theorem Vendor.isEntryChar_of_isDigit {c : Char} (h : c.isDigit = true ∨ c = '.') :
    isEntryChar c = true ∧ isBlank c = false ∧ c.utf8Size = 1 := by
  rcases h with h | rfl
  · obtain ⟨n, hn, rfl⟩ := exists_of_isDigit h
    revert n
    decide
  · decide

namespace IsRate

variable {x : Float}

theorem of_mem_plainText (h : IsRate x) {c : Char} (hc : c ∈ (plainText x).toList) :
    Vendor.isEntryChar c = true ∧ isBlank c = false ∧ c.utf8Size = 1 :=
  Vendor.isEntryChar_of_isDigit (h.isDigit_or_of_mem_plainText hc)

theorem utf8ByteSize_plainText_le (h : IsRate x) : (plainText x).utf8ByteSize ≤ 200 := by
  rw [← String.ofList_toList (s := plainText x),
    utf8ByteSize_ofList fun c hc => (h.of_mem_plainText hc).2.2]
  exact h.length_plainText_le

theorem not_mem_plainText (h : IsRate x) {c : Char} (hc : Vendor.isEntryChar c = false) :
    c ∉ (plainText x).toList :=
  fun hmem => Bool.false_ne_true (hc.symm.trans (h.of_mem_plainText hmem).1)

theorem isBlank_of_mem_rateState (h : IsRate x) {c : Char} (hc : c ∈ (rateState x).toList) :
    isBlank c = false := by
  rw [toList_rateState, List.mem_append] at hc
  rcases hc with hc | hc
  · have hplain : (['e', 's', '=', 's', ':'].all fun c => !isBlank c) = true := by decide
    simpa using List.all_eq_true.mp hplain c hc
  · exact (h.of_mem_plainText hc).2.1

theorem trim_rateState (h : IsRate x) : trim (rateState x).toList = (rateState x).toList :=
  trim_of_forall_not_isBlank fun _ hc => h.isBlank_of_mem_rateState hc

theorem readState_rateState (h : IsRate x) :
    TraceParent.readState (some (rateState x)) = some (rateState x) := by
  have hsome : (rateState x).toList.isEmpty = false := by rw [toList_rateState]; rfl
  simp [TraceParent.readState, h.trim_rateState, Option.filter, hsome]

/-- **The rate is accepted as an entry.** -/
theorem add_sampleRate (h : IsRate x) :
    Vendor.add none [] Vendor.sampleRateKey (plainText x) =
      .ok (rateState x, [(Vendor.sampleRateKey, plainText x)]) := by
  have hkey : Vendor.sampleRateKey.toList.all Vendor.isEntryChar = true := by decide
  have hvalue : (plainText x).toList.all Vendor.isEntryChar = true :=
    List.all_eq_true.mpr fun c hc => (h.of_mem_plainText hc).1
  have hrender : Vendor.render [(Vendor.sampleRateKey, plainText x)] = "s:" ++ plainText x := by
    rw [Vendor.render, List.map_singleton, String.intercalate_singleton]
    rfl
  have hsize : ¬ ("s:" ++ plainText x).utf8ByteSize > Vendor.sizeLimit := by
    have hle := h.utf8ByteSize_plainText_le
    rw [String.utf8ByteSize_append, show "s:".utf8ByteSize = 2 from rfl, Vendor.sizeLimit]
    omega
  have hstate : Vendor.stateWith none [(Vendor.sampleRateKey, plainText x)] = rateState x := by
    rw [Vendor.stateWith, hrender, Option.map_none, Option.getD_none,
      String.intercalate_singleton, ← String.append_assoc]
    rfl
  have hreplace : Vendor.replace [] Vendor.sampleRateKey (plainText x) =
    [(Vendor.sampleRateKey, plainText x)] := rfl
  simp only [Vendor.add, hkey, hvalue, Bool.not_true, Bool.false_eq_true, if_false, hreplace,
    hrender, hsize, hstate]

/-- **The entry is read back from the state.** -/
theorem entriesOf_rateState (h : IsRate x) :
    Vendor.entriesOf (rateState x) = [(Vendor.sampleRateKey, plainText x)] := by
  have hcomma : ',' ∉ (rateState x).toList := by
    rw [toList_rateState, List.mem_append, not_or]
    exact ⟨by decide, h.not_mem_plainText (by decide)⟩
  have hsemicolon : ';' ∉ ['s', ':'] ++ (plainText x).toList := by
    rw [List.mem_append, not_or]
    exact ⟨by decide, h.not_mem_plainText (by decide)⟩
  have hmember : splitOnce? '=' (rateState x).toList =
      some (['e', 's'], ['s', ':'] ++ (plainText x).toList) := by
    rw [toList_rateState]
    exact splitOnce?_append (a := ['e', 's']) (by decide) _
  have hentry : splitOnce? ':' (['s', ':'] ++ (plainText x).toList) =
      some (['s'], (plainText x).toList) :=
    splitOnce?_append (a := ['s']) (by decide) _
  have hvalue : trim (plainText x).toList = (plainText x).toList :=
    trim_of_forall_not_isBlank fun c hc => (h.of_mem_plainText hc).2.1
  have hkey : trim ['e', 's'] = Vendor.memberKey := by decide
  rw [Vendor.entriesOf, List.splitOn_eq_singleton hcomma, List.flatMap_singleton,
    Vendor.entriesOfMember, h.trim_rateState, hmember]
  simp only [hkey, if_true, Vendor.entriesOfValue, List.splitOn_eq_singleton hsemicolon,
    List.filterMap_cons, List.filterMap_nil, hentry, Option.map_some, hvalue, String.ofList_toList]
  rfl

/-- A context without state takes the rate as its only entry. -/
theorem addEntry_create (h : IsRate x) (traceId : TraceId) (id : SpanId) (sampled : Bool) :
    (TraceParent.create traceId id sampled).addEntry Vendor.sampleRateKey (plainText x) =
      ({ TraceParent.create traceId id sampled with
          tracestate := some (rateState x)
          entries := [(Vendor.sampleRateKey, plainText x)] }, []) := by
  simp only [TraceParent.addEntry, TraceParent.tryAddEntry, TraceParent.create, h.add_sampleRate]

end IsRate

/-! ### New traces -/

namespace Agent

/-- **The context of a new trace** carries the rate at which it was sampled. -/
theorem newTrace_eq (a : Agent) (id : SpanId) :
    ∃ sampled rate, IsRate rate ∧ (a.newTrace id).2 =
      ({ TraceParent.create a.freshTraceId.2 id sampled with
          tracestate := some (rateState rate)
          entries := [(Vendor.sampleRateKey, plainText rate)] }, rate) := by
  generalize hdecision : a.sampler.decide (roundRate a.config.current.sampleRate) = decision
  obtain ⟨sampled, sampler⟩ := decision
  have hrate : IsRate (if sampled then roundRate a.config.current.sampleRate else 0) := by
    cases sampled with
    | false => exact .inl rfl
    | true => exact .inr (roundRate_of_sampled (congrArg Prod.fst hdecision))
  refine ⟨sampled, _, hrate, ?_⟩
  simp only [newTrace, hdecision, hrate.addEntry_create]
  rfl

end Agent

end Telemetry
