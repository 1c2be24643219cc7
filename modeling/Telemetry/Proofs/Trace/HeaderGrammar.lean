import Mathlib.Data.List.Induction
import Telemetry.Proofs.Trace.RoundTrip

/-!
# Which headers are accepted, and why others are not

A header is four numbers, written with lower-case digits of full width and with dashes between them.
Later versions may have more to say after the fourth; version 00 may not, and `ff` is no version.
That is the grammar, and it is about the header as a whole.

A header that is not in the grammar is refused for one reason, and the reasons have an order. They
are about the fields that the dashes make of the header, of which there may be any number. So the
rules are stated for fields, and the grammar is what they come to when all of them hold.

## Main definitions

* `Text.Digits`: digits of full width, and the number that they denote.
* `TraceParent.IsHeader`: the grammar.
* `TraceParent.Rule`: the rules in their order; `Rule.Holds`, `Rule.error`, `Rule.IsFirstBroken`.

## Main results

* `TraceParent.isHeader_iff`, `TraceParent.exists_isFields_iff`: the grammar is what the rules
  come to.
* `TraceParent.exists_parse_header_iff`: which contexts a header can name.
* `TraceParent.parse_accepts_exactly`: what is accepted, with which numbers, and what is refused,
  for which reason.
-/

namespace Telemetry

namespace Text

variable {width n : Nat} {s : List Char}

/-! ### Digits of full width -/

/-- The text consists of so many lower-case digits, and this is the number that they denote. -/
inductive Digits : (width : Nat) → List Char → (value : Nat) → Prop
  | nil : Digits 0 [] 0
  | snoc {width : Nat} {s : List Char} {value d : Nat} : Digits width s value → d < 16 →
      Digits (width + 1) (s ++ [hexDigit d]) (16 * value + d)

namespace Digits

/-- A number is written with the digits that denote it. -/
theorem eq_hexFixed (h : Digits width s n) : s = hexFixed width n ∧ n < Nat.pow 16 width := by
  induction h with
  | nil => exact ⟨rfl, by decide⟩
  | @snoc width s value d _ hd ih =>
    have hdiv : (16 * value + d) / 16 = value := by omega
    have hmod : (16 * value + d) % 16 = d := by omega
    have hpow : Nat.pow 16 (width + 1) = Nat.pow 16 width * 16 := rfl
    rw [hexFixed, hdiv, hmod, ← ih.1, hpow]
    exact ⟨rfl, by omega⟩

theorem lt (h : Digits width s n) : n < Nat.pow 16 width := h.eq_hexFixed.2

theorem dash_not_mem (h : Digits width s n) : '-' ∉ s :=
  h.eq_hexFixed.1 ▸ dash_not_mem_hexFixed width n

end Digits

theorem exists_hexDigit {c : Char} (h : (c.isDigit || ('a' ≤ c && c ≤ 'f')) = true) :
    ∃ d < 16, c = hexDigit d := by
  have hcode : 48 ≤ c.toNat ∧ c.toNat ≤ 57 ∨ 97 ≤ c.toNat ∧ c.toNat ≤ 102 := by
    simpa [Char.isDigit, Char.le_def, UInt32.le_iff_toNat_le] using h
  rcases hcode with ⟨hlow, hhigh⟩ | ⟨hlow, hhigh⟩
  · refine ⟨c.toNat - 48, by omega, ?_⟩
    rw [hexDigit, if_pos (by omega), Nat.add_sub_cancel' hlow, Char.ofNat_toNat]
  · refine ⟨c.toNat - 87, by omega, ?_⟩
    rw [hexDigit, if_neg (by omega), Nat.add_sub_cancel' (by omega), Char.ofNat_toNat]

/-- Any text of lower-case digits denotes a number. -/
theorem exists_digits (h : isLowerHex width s = true) : ∃ n, Digits width s n := by
  rw [isLowerHex, Bool.and_eq_true, beq_iff_eq] at h
  obtain ⟨rfl, hall⟩ := h
  induction s using List.reverseRecOn with
  | nil => exact ⟨0, .nil⟩
  | append_singleton s c ih =>
    rw [List.all_append, Bool.and_eq_true, List.all_cons, List.all_nil, Bool.and_true] at hall
    obtain ⟨n, hn⟩ := ih hall.1
    obtain ⟨d, hd, rfl⟩ := exists_hexDigit hall.2
    rw [List.length_append, List.length_singleton]
    exact ⟨16 * n + d, .snoc hn hd⟩

end Text

open Text

namespace TraceParent

variable {width n k v t s f : Nat} {field : List Char} {fields : List (List Char)}
  {tracestate : Option String} {tp : TraceParent}

/-- What is read off a field is the number that its digits denote. -/
theorem readField?_eq_some_iff : readField? width field = some n ↔ Digits width field n := by
  constructor
  · intro h
    rw [readField?] at h
    split at h
    · rename_i hlower
      obtain ⟨m, hm⟩ := exists_digits hlower
      obtain ⟨rfl, hlt⟩ := hm.eq_hexFixed
      rw [ofHexDigits?_hexFixed hlt, Option.some.injEq] at h
      exact h ▸ hm
    · cases h
  · intro h
    obtain ⟨rfl, hlt⟩ := h.eq_hexFixed
    exact readField?_hexFixed hlt

theorem readField?_eq_none_iff : readField? width field = none ↔ ¬ ∃ n, Digits width field n := by
  simp [Option.eq_none_iff_forall_ne_some, readField?_eq_some_iff]

theorem digits_hexFixed_iff (h : k < Nat.pow 16 width) :
    Digits width (hexFixed width k) n ↔ n = k := by
  rw [← readField?_eq_some_iff, readField?_hexFixed h, Option.some.injEq, eq_comm]

/-- Some fields must not have a certain value. -/
theorem readField?_filter_eq_some_iff :
    (readField? width field).filter (· ≠ k) = some n ↔ Digits width field n ∧ n ≠ k := by
  simp [Option.filter_eq_some_iff, readField?_eq_some_iff]

theorem readField?_filter_eq_none_iff :
    (readField? width field).filter (· ≠ k) = none ↔ ¬ ∃ n, Digits width field n ∧ n ≠ k := by
  simp only [Option.eq_none_iff_forall_ne_some, ne_eq, readField?_filter_eq_some_iff, not_exists]

/-! ### The grammar -/

/-- A header with these numbers: a version, a trace, a span and options. Something may follow in
later versions, after another dash. -/
inductive IsHeader : List Char → (version traceId spanId flags : Nat) → Prop
  | mk {version traceId spanId flags rest : List Char} {v t s f : Nat}
      (hversion : Digits 2 version v) (hv : v ≠ 0xff)
      (htrace : Digits 32 traceId t) (ht : t ≠ 0)
      (hspan : Digits 16 spanId s) (hs : s ≠ 0)
      (hflags : Digits 2 flags f)
      (hrest : rest = [] ∨ v ≠ 0 ∧ ∃ text, rest = '-' :: text) :
      IsHeader (version ++ '-' :: (traceId ++ '-' :: (spanId ++ '-' :: (flags ++ rest)))) v t s f

/-- The fields of a header with these numbers. -/
inductive IsFields : List (List Char) → (version traceId spanId flags : Nat) → Prop
  | mk {version traceId spanId flags : List Char} {extra : List (List Char)} {v t s f : Nat}
      (hversion : Digits 2 version v) (hv : v ≠ 0xff)
      (htrace : Digits 32 traceId t) (ht : t ≠ 0)
      (hspan : Digits 16 spanId s) (hs : s ≠ 0)
      (hflags : Digits 2 flags f)
      (hextra : v = 0 → extra = []) :
      IsFields (version :: traceId :: spanId :: flags :: extra) v t s f

/-- **A header is in the grammar** if its fields are right. -/
theorem isHeader_iff {header : List Char} :
    IsHeader header v t s f ↔ IsFields (header.splitOn '-') v t s f := by
  constructor
  · rintro ⟨hversion, hv, htrace, ht, hspan, hs, hflags, hrest⟩
    rw [List.splitOn_append_cons_self_of_not_mem hversion.dash_not_mem,
      List.splitOn_append_cons_self_of_not_mem htrace.dash_not_mem,
      List.splitOn_append_cons_self_of_not_mem hspan.dash_not_mem]
    rcases hrest with rfl | ⟨hlater, text, rfl⟩
    · rw [List.append_nil, List.splitOn_eq_singleton hflags.dash_not_mem]
      exact ⟨hversion, hv, htrace, ht, hspan, hs, hflags, fun _ => rfl⟩
    · rw [List.splitOn_append_cons_self_of_not_mem hflags.dash_not_mem]
      exact ⟨hversion, hv, htrace, ht, hspan, hs, hflags, fun h => absurd h hlater⟩
  · intro h
    have hjoin : ['-'].intercalate (header.splitOn '-') = header := List.intercalate_splitOn '-'
    generalize header.splitOn '-' = fields at h hjoin
    obtain @⟨version, traceId, spanId, flags, extra, _, _, _, _, hversion, hv, htrace, ht, hspan,
      hs, hflags, hextra⟩ := h
    cases extra with
    | nil =>
      have hnothing : ([] : List Char) = [] ∨ v ≠ 0 ∧ ∃ text, [] = '-' :: text := .inl rfl
      simpa [← hjoin, List.intercalate] using
        IsHeader.mk hversion hv htrace ht hspan hs hflags hnothing
    | cons field more =>
      have hlater : v ≠ 0 := fun h => List.cons_ne_nil _ _ (hextra h)
      simpa [← hjoin, List.intercalate_cons_cons] using
        IsHeader.mk hversion hv htrace ht hspan hs hflags
          (.inr ⟨hlater, ['-'].intercalate (field :: more), rfl⟩)

theorem IsHeader.ne {header : List Char} (h : IsHeader header v t s f) :
    v ≠ 0xff ∧ t ≠ 0 ∧ s ≠ 0 := by
  obtain ⟨-, hv, -, ht, -, hs, -, -⟩ := h
  exact ⟨hv, ht, hs⟩

/-! ### The rules -/

/-- The rules for the fields of a header, in the order in which a broken one is reported. -/
inductive Rule
  | fieldCount
  | version
  | extraFields
  | traceId
  | spanId
  | flags

namespace Rule

/-- The fields comply with a rule. -/
def Holds (fields : List (List Char)) : Rule → Prop
  | fieldCount => 4 ≤ fields.length
  | version => ∃ v, Digits 2 (fields.getD 0 []) v ∧ v ≠ 0xff
  | extraFields => Digits 2 (fields.getD 0 []) 0 → fields.length = 4
  | traceId => ∃ t, Digits 32 (fields.getD 1 []) t ∧ t ≠ 0
  | spanId => ∃ s, Digits 16 (fields.getD 2 []) s ∧ s ≠ 0
  | flags => ∃ f, Digits 2 (fields.getD 3 []) f

/-- Why fields that break a rule are refused. -/
def error (fields : List (List Char)) : Rule → Error
  | fieldCount => .missingFields fields.length
  | version => .invalidVersion (String.ofList (fields.getD 0 []))
  | extraFields => .unexpectedFields fields.length
  | traceId => .invalidTraceId (String.ofList (fields.getD 1 []))
  | spanId => .invalidSpanId (String.ofList (fields.getD 2 []))
  | flags => .invalidFlags (String.ofList (fields.getD 3 []))

/-- A rule is the first one that the fields break. -/
def IsFirstBroken (fields : List (List Char)) (r : Rule) : Prop :=
  ¬ r.Holds fields ∧ ∀ earlier : Rule, earlier.ctorIdx < r.ctorIdx → earlier.Holds fields

/-- If a rule is broken, one is the first. -/
theorem exists_isFirstBroken {r : Rule} (h : ¬ r.Holds fields) :
    ∃ first : Rule, first.IsFirstBroken fields := by
  induction r using (measure Rule.ctorIdx).wf.induction with
  | _ r ih =>
    by_cases hfirst : ∀ earlier : Rule, earlier.ctorIdx < r.ctorIdx → earlier.Holds fields
    · exact ⟨r, h, hfirst⟩
    · simp only [not_forall] at hfirst
      obtain ⟨earlier, hlt, hbroken⟩ := hfirst
      exact ih earlier hlt hbroken

end Rule

theorem exists_fields (h : Rule.Holds fields .fieldCount) :
    ∃ version traceId spanId flags extra,
      fields = version :: traceId :: spanId :: flags :: extra := by
  match fields, h with
  | version :: traceId :: spanId :: flags :: extra, _ => exact ⟨_, _, _, _, _, rfl⟩

/-- **All rules hold** for the fields of a header, and for no others. -/
theorem exists_isFields_iff :
    (∃ v t s f, IsFields fields v t s f) ↔ ∀ r : Rule, r.Holds fields := by
  constructor
  · rintro ⟨v, t, s, f, ⟨hversion, hv, htrace, ht, hspan, hs, hflags, hextra⟩⟩ r
    cases r with
    | fieldCount => simp [Rule.Holds]
    | version => exact ⟨v, hversion, hv⟩
    | extraFields =>
      intro hzero
      have hv : v = 0 := by
        have hread := readField?_eq_some_iff.mpr hzero
        rw [List.getD_cons_zero, readField?_eq_some_iff.mpr hversion] at hread
        exact Option.some.inj hread
      rw [hextra hv]
      rfl
    | traceId => exact ⟨t, htrace, ht⟩
    | spanId => exact ⟨s, hspan, hs⟩
    | flags => exact ⟨f, hflags⟩
  · intro h
    obtain ⟨version, traceId, spanId, flags, extra, rfl⟩ := exists_fields (h .fieldCount)
    obtain ⟨v, hversion, hv⟩ := h .version
    obtain ⟨t, htrace, ht⟩ := h .traceId
    obtain ⟨s, hspan, hs⟩ := h .spanId
    obtain ⟨f, hflags⟩ := h .flags
    refine ⟨v, t, s, f, hversion, hv, htrace, ht, hspan, hs, hflags, ?_⟩
    rintro rfl
    simpa using h .extraFields hversion

/-- Either the fields are those of a header, or some rule is the first that they break. -/
theorem isFields_or_isFirstBroken (fields : List (List Char)) :
    (∃ v t s f, IsFields fields v t s f) ∨ ∃ r : Rule, r.IsFirstBroken fields := by
  by_cases h : ∀ r : Rule, r.Holds fields
  · exact .inl (exists_isFields_iff.mpr h)
  · obtain ⟨r, hbroken⟩ := not_forall.mp h
    exact .inr (Rule.exists_isFirstBroken hbroken)

/-! ### Reading the fields -/

/-- The context with these numbers and a state. -/
def ofNumbers (v t s f : Nat) (tracestate : Option String) : TraceParent where
  version := UInt8.ofNat v
  traceId := .ofNat t
  spanId := .ofNat s
  flags := ⟨UInt8.ofNat f⟩
  tracestate := readState tracestate
  entries := ((readState tracestate).map Vendor.entriesOf).getD []

/-- The fields of a header are accepted. -/
theorem ofFields_of_isFields (h : IsFields fields v t s f) (tracestate : Option String) :
    ofFields fields tracestate = .ok (ofNumbers v t s f tracestate) := by
  obtain ⟨hversion, hv, htrace, ht, hspan, hs, hflags, hextra⟩ := h
  have hcount : ¬ (v = 0 ∧ _ ≠ []) := fun h => h.2 (hextra h.1)
  simp only [ofFields, readField?_filter_eq_some_iff.mpr ⟨hversion, hv⟩, hcount, if_false,
    readField?_filter_eq_some_iff.mpr ⟨htrace, ht⟩, readField?_filter_eq_some_iff.mpr ⟨hspan, hs⟩,
    readField?_eq_some_iff.mpr hflags]
  rfl

/-- The numbers of a header fit into a context. -/
theorem IsFields.toNat_ofNumbers (h : IsFields fields v t s f) (tracestate : Option String) :
    (ofNumbers v t s f tracestate).version.toNat = v ∧
      (ofNumbers v t s f tracestate).traceId.toNat = t ∧
      (ofNumbers v t s f tracestate).spanId.toNat = s ∧
      (ofNumbers v t s f tracestate).flags.byte.toNat = f := by
  obtain ⟨hversion, hv, htrace, ht, hspan, hs, hflags, hextra⟩ := h
  refine ⟨?_, ?_, ?_, ?_⟩
  · exact UInt8.toNat_ofNat_of_lt' hversion.lt
  · exact BitVec.toNat_ofNat .. |>.trans (Nat.mod_eq_of_lt htrace.lt)
  · exact BitVec.toNat_ofNat .. |>.trans (Nat.mod_eq_of_lt hspan.lt)
  · exact UInt8.toNat_ofNat_of_lt' hflags.lt

/-- If the first three rules hold, the fields belong to a version and are as many as it has. -/
theorem exists_version
    (h : ∀ earlier : Rule, earlier.ctorIdx < Rule.traceId.ctorIdx → earlier.Holds fields) :
    ∃ v version traceId spanId flags extra,
      fields = version :: traceId :: spanId :: flags :: extra ∧
        (readField? 2 version).filter (· ≠ 0xff) = some v ∧ ¬ (v = 0 ∧ extra ≠ []) := by
  obtain ⟨version, traceId, spanId, flags, extra, rfl⟩ := exists_fields (h .fieldCount (by decide))
  obtain ⟨v, hversion⟩ := h .version (by decide)
  refine ⟨v, version, traceId, spanId, flags, extra, rfl,
    readField?_filter_eq_some_iff.mpr hversion, ?_⟩
  rintro ⟨rfl, hmore⟩
  exact hmore (by simpa using h .extraFields (by decide) hversion.1)

/-- **Fields are refused** for the first rule that they break. -/
theorem ofFields_of_isFirstBroken {r : Rule} (h : r.IsFirstBroken fields)
    (tracestate : Option String) : ofFields fields tracestate = .error (r.error fields) := by
  obtain ⟨hbroken, hearlier⟩ := h
  cases r with
  | fieldCount =>
    match fields, hbroken with
    | [], _ | [_], _ | [_, _], _ | [_, _, _], _ => rfl
    | _ :: _ :: _ :: _ :: _, h => simp [Rule.Holds] at h
  | version =>
    obtain ⟨version, traceId, spanId, flags, extra, rfl⟩ :=
      exists_fields (hearlier .fieldCount (by decide))
    have hnone : (readField? 2 version).filter (· ≠ 0xff) = none :=
      readField?_filter_eq_none_iff.mpr hbroken
    simp only [ofFields, hnone]
    rfl
  | extraFields =>
    obtain ⟨version, traceId, spanId, flags, extra, rfl⟩ :=
      exists_fields (hearlier .fieldCount (by decide))
    obtain ⟨hzero, hmore⟩ := Classical.not_imp.mp hbroken
    have hextra : extra ≠ [] := fun h => hmore (by rw [h]; rfl)
    have hread : (readField? 2 version).filter (· ≠ 0xff) = some 0 :=
      readField?_filter_eq_some_iff.mpr ⟨hzero, by decide⟩
    simp only [ofFields, hread, hextra, ne_eq, not_false_eq_true, and_self, if_true]
    rfl
  | traceId =>
    obtain ⟨v, version, traceId, spanId, flags, extra, rfl, hread, hcount⟩ :=
      exists_version hearlier
    have hnone : (readField? 32 traceId).filter (· ≠ 0) = none :=
      readField?_filter_eq_none_iff.mpr hbroken
    simp only [ofFields, hread, hcount, if_false, hnone]
    rfl
  | spanId =>
    obtain ⟨v, version, traceId, spanId, flags, extra, rfl, hread, hcount⟩ :=
      exists_version fun r h => hearlier r (Nat.lt_trans h (by decide))
    obtain ⟨t, htrace⟩ := hearlier .traceId (by decide)
    have hreadTrace : (readField? 32 traceId).filter (· ≠ 0) = some t :=
      readField?_filter_eq_some_iff.mpr htrace
    have hnone : (readField? 16 spanId).filter (· ≠ 0) = none :=
      readField?_filter_eq_none_iff.mpr hbroken
    simp only [ofFields, hread, hcount, if_false, hreadTrace, hnone]
    rfl
  | flags =>
    obtain ⟨v, version, traceId, spanId, flags, extra, rfl, hread, hcount⟩ :=
      exists_version fun r h => hearlier r (Nat.lt_trans h (by decide))
    obtain ⟨t, htrace⟩ := hearlier .traceId (by decide)
    obtain ⟨s, hspan⟩ := hearlier .spanId (by decide)
    have hreadTrace : (readField? 32 traceId).filter (· ≠ 0) = some t :=
      readField?_filter_eq_some_iff.mpr htrace
    have hreadSpan : (readField? 16 spanId).filter (· ≠ 0) = some s :=
      readField?_filter_eq_some_iff.mpr hspan
    have hnone : readField? 2 flags = none := readField?_eq_none_iff.mpr hbroken
    simp only [ofFields, hread, hcount, if_false, hreadTrace, hreadSpan, hnone]
    rfl

/-! ### Reading headers -/

/-- A header in the grammar is read, and the context has its numbers. -/
theorem parse_of_isHeader {header : String} (h : IsHeader (trim header.toList) v t s f)
    (tracestate : Option String) : parse header tracestate = .ok (ofNumbers v t s f tracestate) :=
  ofFields_of_isFields (isHeader_iff.mp h) tracestate

/-- What is read off a header is in the grammar, and says nothing that is not in it. -/
theorem isHeader_of_parse {header : String} (h : parse header tracestate = .ok tp) :
    IsHeader (trim header.toList) tp.version.toNat tp.traceId.toNat tp.spanId.toNat
        tp.flags.byte.toNat ∧
      tp = ofNumbers tp.version.toNat tp.traceId.toNat tp.spanId.toNat tp.flags.byte.toNat
        tracestate := by
  rcases isFields_or_isFirstBroken ((trim header.toList).splitOn '-') with
    ⟨v, t, s, f, hfields⟩ | ⟨r, hfirst⟩
  · obtain rfl := Except.ok.inj (h.symm.trans (ofFields_of_isFields hfields tracestate))
    obtain ⟨hv, ht, hs, hf⟩ := hfields.toNat_ofNumbers tracestate
    rw [hv, ht, hs, hf]
    exact ⟨isHeader_iff.mpr hfields, rfl⟩
  · rw [parse, ofFields_of_isFirstBroken hfirst] at h
    cases h

theorem isValid_of_toNat_ne (hv : tp.version.toNat ≠ 0xff) (ht : tp.traceId.toNat ≠ 0)
    (hs : tp.spanId.toNat ≠ 0) :
    tp.version ≠ 0xff ∧ tp.traceId.isValid = true ∧ tp.spanId.isValid = true :=
  ⟨fun hff => hv (congrArg UInt8.toNat hff), TraceId.isValid_iff.mpr ht,
    SpanId.isValid_iff.mpr hs⟩

/-- What is read off a header has a version and identifiers. -/
theorem isValid_of_parse {header : String} (h : parse header tracestate = .ok tp) :
    tp.version ≠ 0xff ∧ tp.traceId.isValid = true ∧ tp.spanId.isValid = true := by
  obtain ⟨hv, ht, hs⟩ := (isHeader_of_parse h).1.ne
  exact isValid_of_toNat_ne hv ht hs

/-- A written header is accepted if there is such a version, and the identifiers stand for
something. -/
theorem exists_parse_header_iff : (∃ again, parse tp.header tracestate = .ok again) ↔
    tp.version ≠ 0xff ∧ tp.traceId.isValid = true ∧ tp.spanId.isValid = true := by
  constructor
  · rintro ⟨again, h⟩
    have hwritten := isHeader_iff.mp (isHeader_of_parse h).1
    rw [header, String.toList_ofList, trim_headerChars, splitOn_headerChars] at hwritten
    have hrules := exists_isFields_iff.mp ⟨_, _, _, _, hwritten⟩
    obtain ⟨v, hversion, hv⟩ := hrules .version
    obtain ⟨t, htrace, ht⟩ := hrules .traceId
    obtain ⟨s, hspan, hs⟩ := hrules .spanId
    obtain rfl := (digits_hexFixed_iff tp.version.toNat_lt).mp hversion
    obtain rfl := (digits_hexFixed_iff tp.traceId.toNat_lt).mp htrace
    obtain rfl := (digits_hexFixed_iff tp.spanId.toNat_lt).mp hspan
    exact isValid_of_toNat_ne hv ht hs
  · rintro ⟨hversion, htrace, hspan⟩
    exact ⟨_, parse_header_with hversion htrace hspan tracestate⟩

/-- The state comes with the header, and nobody looks at it. -/
theorem state_of_parse {header : String} (h : parse header tracestate = .ok tp) :
    tp.tracestate = readState tracestate ∧
      tp.entries = ((readState tracestate).map Vendor.entriesOf).getD [] := by
  have heq := (isHeader_of_parse h).2
  exact ⟨congrArg TraceParent.tracestate heq, congrArg TraceParent.entries heq⟩

/-- A header is refused for the first rule that its fields break. -/
theorem parse_eq_error_iff {header : String} {e : Error} :
    parse header tracestate = .error e ↔
      ∃ r : Rule, r.IsFirstBroken ((trim header.toList).splitOn '-') ∧
        e = r.error ((trim header.toList).splitOn '-') := by
  constructor
  · intro h
    rcases isFields_or_isFirstBroken ((trim header.toList).splitOn '-') with
      ⟨v, t, s, f, hfields⟩ | ⟨r, hfirst⟩
    · rw [parse, ofFields_of_isFields hfields] at h
      cases h
    · rw [parse, ofFields_of_isFirstBroken hfirst] at h
      exact ⟨r, hfirst, (Except.error.inj h).symm⟩
  · rintro ⟨r, hfirst, rfl⟩
    exact ofFields_of_isFirstBroken hfirst tracestate

/-- **Accepted is what is in the grammar**, with the numbers that are written there; everything else
is refused, for the first rule that its fields break. -/
theorem parse_accepts_exactly (header : String) (tracestate : Option String) :
    ((∃ tp, parse header tracestate = .ok tp) ↔
      ∃ v t s f, IsHeader (trim header.toList) v t s f) ∧
    (∀ tp, parse header tracestate = .ok tp →
      IsHeader (trim header.toList) tp.version.toNat tp.traceId.toNat tp.spanId.toNat
        tp.flags.byte.toNat) ∧
    ∀ e, parse header tracestate = .error e ↔
      ∃ r : Rule, r.IsFirstBroken ((trim header.toList).splitOn '-') ∧
        e = r.error ((trim header.toList).splitOn '-') := by
  refine ⟨⟨?_, ?_⟩, fun tp h => (isHeader_of_parse h).1, fun e => parse_eq_error_iff⟩
  · rintro ⟨tp, h⟩
    exact ⟨_, _, _, _, (isHeader_of_parse h).1⟩
  · rintro ⟨v, t, s, f, h⟩
    exact ⟨_, parse_of_isHeader h tracestate⟩

/-- A header of a later version, with white space around it and more after the options. -/
def laterHeader : String :=
  " 02-0af7651916cd43dd8448eb211c80319c-b7ad6b7169203331-09--x\u2003"

/-- A header in which the trace has capital letters, and the options one digit too few. -/
def faultyHeader : String :=
  "00-0AF7651916CD43DD8448EB211C80319C-b7ad6b7169203331-1"

theorem parse_accepts_exactly_twoHeaders :
    (∃ t s, IsHeader (trim laterHeader.toList) 2 t s 9) ∧
      ∃ r : Rule, r.IsFirstBroken ((trim faultyHeader.toList).splitOn '-') ∧
        .invalidTraceId "0AF7651916CD43DD8448EB211C80319C" =
          r.error ((trim faultyHeader.toList).splitOn '-') := by
  have hlater : parse laterHeader none =
      .ok (ofNumbers 2 0x0af7651916cd43dd8448eb211c80319c 0xb7ad6b7169203331 9 none) := by
    decide +kernel
  have hfaulty : parse faultyHeader none =
      .error (.invalidTraceId "0AF7651916CD43DD8448EB211C80319C") := by
    decide +kernel
  exact ⟨⟨_, _, (parse_accepts_exactly laterHeader none).2.1 _ hlater⟩,
    ((parse_accepts_exactly faultyHeader none).2.2 _).mp hfaulty⟩

end TraceParent

end Telemetry
