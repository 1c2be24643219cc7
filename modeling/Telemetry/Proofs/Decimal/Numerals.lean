import Telemetry.Decimal.Reader
import Telemetry.Json.Writer

/-!
# Numbers are written so that they can be read

A number in an event line has an optional minus sign, digits, perhaps a point with more digits after
it, and perhaps an exponent. Whatever its digits are, a text of that form is the text of a number:
the reader finds the point and the mark of the exponent where the writer put them, since there are
nothing but digits between them.

Which digits a number has is not a matter here.

## Main definitions

* `Numeral`, `Numeral.text`: a number as it is written, in its parts.

## Main results

* `Json.exists_numeral`: every number that JSON can express is written so.
* `Numeral.exists_readFloat?`: what is written so is read.
-/

namespace Telemetry

open Text

variable {c : Char} {s t : List Char}

/-- Digits, and at least one of them. -/
structure AreDigits (s : List Char) : Prop where
  ne_nil : s ≠ []
  isDigit : ∀ c ∈ s, c.isDigit = true

/-- An unsigned number as it is written, in its parts. An exponent has its sign always. -/
structure Numeral where
  whole : List Char
  fraction : Option (List Char)
  exponent : Option (Char × List Char)
  whole_digits : AreDigits whole
  fraction_digits : ∀ f ∈ fraction, AreDigits f
  exponent_digits : ∀ e ∈ exponent, (e.1 = '-' ∨ e.1 = '+') ∧ AreDigits e.2

namespace AreDigits

theorem toDigits (n : Nat) : AreDigits (Nat.toDigits 10 n) :=
  ⟨Nat.toDigits_ne_nil, fun _ h => Nat.isDigit_of_mem_toDigits (by decide) (by decide) h⟩

theorem append (hs : AreDigits s) (ht : ∀ c ∈ t, c.isDigit = true) : AreDigits (s ++ t) where
  ne_nil := List.append_ne_nil_of_left_ne_nil hs.ne_nil t
  isDigit c h := (List.mem_append.mp h).elim (hs.isDigit c) (ht c)

theorem append_left (hs : AreDigits s) (ht : ∀ c ∈ t, c.isDigit = true) : AreDigits (t ++ s) where
  ne_nil := List.append_ne_nil_of_right_ne_nil t hs.ne_nil
  isDigit c h := (List.mem_append.mp h).elim (ht c) (hs.isDigit c)

theorem take (hs : AreDigits s) {n : Nat} (hn : 0 < n) : AreDigits (s.take n) where
  ne_nil h := (List.take_eq_nil_iff.mp h).elim (fun hzero => by omega) hs.ne_nil
  isDigit c h := hs.isDigit c (List.mem_of_mem_take h)

theorem drop (hs : AreDigits s) {n : Nat} (h : s.drop n ≠ []) : AreDigits (s.drop n) where
  ne_nil := h
  isDigit c h := hs.isDigit c (List.mem_of_mem_drop h)

theorem zero : AreDigits ['0'] := ⟨List.cons_ne_nil _ _, by simp⟩

theorem ofDigits?_eq (hs : AreDigits s) : ∃ n, ofDigits? s = some n := by
  have hall : s.all Char.isDigit = true := List.all_eq_true.mpr hs.isDigit
  exact ⟨_, if_neg (by simp [hs.ne_nil, hall])⟩

end AreDigits

theorem isDigit_replicate_zero (n : Nat) : ∀ c ∈ List.replicate n '0', c.isDigit = true := by
  intro c h
  rw [(List.mem_replicate.mp h).2]
  rfl

namespace Numeral

/-- The fraction after its point. -/
def fractionText (m : Numeral) : List Char := (m.fraction.map ('.' :: ·)).getD []

/-- The exponent after its mark. -/
def exponentText (m : Numeral) : List Char := (m.exponent.map fun e => 'e' :: e.1 :: e.2).getD []

/-- The number as it is written. -/
def text (m : Numeral) : List Char := m.whole ++ (m.fractionText ++ m.exponentText)

/-- The number with a sign, if it is a negative one. -/
def signed (m : Numeral) (negative : Bool) : List Char :=
  (if negative then ['-'] else []) ++ m.text

/-- A number without a fraction. -/
def ofDigits (h : AreDigits s) : Numeral where
  whole := s
  fraction := none
  exponent := none
  whole_digits := h
  fraction_digits := nofun
  exponent_digits := nofun

/-- A number with a fraction. -/
def ofParts (hs : AreDigits s) (ht : AreDigits t) : Numeral where
  whole := s
  fraction := some t
  exponent := none
  whole_digits := hs
  fraction_digits _ hf := Option.mem_some.mp hf ▸ ht
  exponent_digits := nofun

theorem text_ofDigits (h : AreDigits s) : (ofDigits h).text = s := by
  simp [text, ofDigits, fractionText, exponentText]

theorem text_ofParts (hs : AreDigits s) (ht : AreDigits t) :
    (ofParts hs ht).text = s ++ '.' :: t := by
  simp [text, ofParts, fractionText, exponentText]

/-! ### Writing -/

/-- Positional notation has digits on either side of the point. -/
theorem exists_writePositional (hs : AreDigits s) (places : Int) :
    ∃ m : Numeral, jsonLayout.writePositional s places = m.text := by
  unfold Layout.writePositional
  split
  · -- all digits are after the point
    have hfraction := hs.append_left (isDigit_replicate_zero (-places).toNat)
    exact ⟨ofParts .zero hfraction, by simp [text_ofParts]⟩
  rename_i hplaces
  have hwhole : AreDigits (s.take places.toNat) := hs.take (by omega)
  dsimp only
  split
  · have hfilled := hwhole.append (isDigit_replicate_zero (places.toNat - s.length))
    exact ⟨ofParts hfilled .zero, by simp [text_ofParts, jsonLayout]⟩
  · rename_i hsome
    have hdrop : s.drop places.toNat ≠ [] := fun h => hsome h
    exact ⟨ofParts hwhole (hs.drop hdrop), (text_ofParts hwhole (hs.drop hdrop)).symm⟩

/-- In scientific notation there is one digit before the point. -/
theorem exists_writeScientific (hs : AreDigits s) (e : Int) :
    ∃ m : Numeral, Layout.writeScientific s e = m.text := by
  have hsign : (if e < 0 then '-' else '+') = '-' ∨ (if e < 0 then '-' else '+') = '+' := by
    split <;> simp
  let scale : Char × List Char := (if e < 0 then '-' else '+', Nat.toDigits 10 e.natAbs)
  have hscale : ∀ e ∈ some scale, (e.1 = '-' ∨ e.1 = '+') ∧ AreDigits e.2 := fun e he =>
    Option.mem_some.mp he ▸ ⟨hsign, .toDigits _⟩
  have hone : AreDigits (s.take 1) := hs.take (by decide)
  unfold Layout.writeScientific
  dsimp only
  split
  · exact ⟨{ ofDigits hone with exponent := some scale, exponent_digits := hscale },
      by simp [text, ofDigits, fractionText, exponentText, scale]⟩
  · rename_i hsome
    have hdrop : s.drop 1 ≠ [] := fun h => hsome h
    exact ⟨{ ofParts hone (hs.drop hdrop) with exponent := some scale, exponent_digits := hscale },
      by simp [text, ofParts, fractionText, exponentText, scale]⟩

theorem exists_writeDecimal (d : Decimal) : ∃ m : Numeral, jsonLayout.writeDecimal d = m.text := by
  unfold Layout.writeDecimal
  dsimp only
  split
  · exact exists_writePositional (.toDigits _) _
  · exact exists_writeScientific (.toDigits _) _

theorem exists_write (x : Float) : ∃ (m : Numeral) (negative : Bool),
    jsonLayout.write x = m.signed negative := by
  unfold Layout.write
  dsimp only
  split
  · rename_i b _
    obtain ⟨m, hm⟩ := exists_writeDecimal (b.shortest jsonLayout.tie)
    exact ⟨m, x.toBits.toNat / Nat.pow 2 63 = 1, by simp [signed, hm]⟩
  · exact ⟨ofParts .zero .zero, x.toBits.toNat / Nat.pow 2 63 = 1,
      by simp [signed, text_ofParts, jsonLayout]⟩

end Numeral

namespace Json

/-- **Every number is written as a numeral**, or as `null` if JSON cannot express it. -/
theorem exists_numeral (n : Number) : writeNumber n = ['n', 'u', 'l', 'l'] ∨
    ∃ (m : Numeral) (negative : Bool), writeNumber n = m.signed negative := by
  cases n with
  | int n =>
    exact .inr ⟨.ofDigits (.toDigits n.natAbs), n < 0,
      by simp [writeNumber, Numeral.signed, Numeral.text_ofDigits]⟩
  | float x =>
    rw [writeNumber]
    split
    · exact .inr (Numeral.exists_write x)
    · exact .inl rfl

end Json

/-! ### Reading -/

namespace Numeral

variable (m : Numeral)

/-- What a numeral is made of. -/
theorem isDigit_or_of_mem_signed {negative : Bool} (h : c ∈ m.signed negative) :
    c.isDigit = true ∨ c = '-' ∨ c = '+' ∨ c = '.' ∨ c = 'e' := by
  simp only [signed, text, List.mem_append] at h
  rcases h with h | h | h | h
  · split at h
    · exact .inr (.inl (List.mem_singleton.mp h))
    · cases h
  · exact .inl (m.whole_digits.isDigit c h)
  · cases hfraction : m.fraction with
    | none => simp [fractionText, hfraction] at h
    | some f =>
      have hdigits := m.fraction_digits f hfraction
      rcases (by simpa [fractionText, hfraction] using h : c = '.' ∨ c ∈ f) with rfl | h
      · exact .inr (.inr (.inr (.inl rfl)))
      · exact .inl (hdigits.isDigit c h)
  · cases hexponent : m.exponent with
    | none => simp [exponentText, hexponent] at h
    | some e =>
      obtain ⟨hsign, hdigits⟩ := m.exponent_digits e hexponent
      rcases (by simpa [exponentText, hexponent] using h : c = 'e' ∨ c = e.1 ∨ c ∈ e.2) with
        rfl | rfl | h
      · exact .inr (.inr (.inr (.inr rfl)))
      · exact .inr (hsign.imp_right .inl)
      · exact .inl (hdigits.isDigit c h)

/-- An unsigned numeral begins with a digit. -/
theorem exists_text_eq_cons : ∃ c s, m.text = c :: s ∧ c.isDigit = true := by
  obtain ⟨d, digits, hwhole⟩ := List.exists_cons_of_ne_nil m.whole_digits.ne_nil
  exact ⟨d, _, by rw [text, hwhole]; rfl, m.whole_digits.isDigit d (hwhole ▸ List.mem_cons_self)⟩

/-- A numeral begins with its sign or with a digit. -/
theorem exists_signed_eq_cons (negative : Bool) : ∃ c s, m.signed negative = c :: s ∧
    (c = '-' ∨ c.isDigit = true) := by
  obtain ⟨c, s, htext, hc⟩ := m.exists_text_eq_cons
  cases negative with
  | true => exact ⟨'-', m.text, rfl, .inl rfl⟩
  | false => exact ⟨c, s, htext, .inr hc⟩

/-- The mark of the exponent is found where it was put. -/
theorem takeWhile_text : m.text.takeWhile (fun c => c != 'e' && c != 'E') =
    m.whole ++ m.fractionText := by
  have hdigit {c : Char} (h : c.isDigit = true) : (c != 'e' && c != 'E') = true := by
    rw [Bool.and_eq_true, bne_iff_ne, bne_iff_ne]
    constructor <;> rintro rfl <;> exact absurd h (by decide)
  have hfront : ∀ c ∈ m.whole ++ m.fractionText, (c != 'e' && c != 'E') = true := by
    intro c hc
    rcases List.mem_append.mp hc with hc | hc
    · exact hdigit (m.whole_digits.isDigit c hc)
    cases hfraction : m.fraction with
    | none => simp [fractionText, hfraction] at hc
    | some f =>
      rcases (by simpa [fractionText, hfraction] using hc : c = '.' ∨ c ∈ f) with rfl | hc
      · rfl
      · exact hdigit ((m.fraction_digits f hfraction).isDigit c hc)
  rw [text, ← List.append_assoc, List.takeWhile_append_of_pos hfront]
  cases hexponent : m.exponent <;> simp [exponentText, hexponent]

/-- The point is found where it was put. -/
theorem takeWhile_whole : (m.whole ++ m.fractionText).takeWhile (· != '.') = m.whole := by
  have hfront : ∀ c ∈ m.whole, (c != '.') = true := by
    intro c hc
    rw [bne_iff_ne]
    rintro rfl
    exact absurd (m.whole_digits.isDigit _ hc) (by decide)
  rw [List.takeWhile_append_of_pos hfront]
  cases hfraction : m.fraction <;> simp [fractionText, hfraction]

/-- An exponent that was written is read. -/
theorem exists_exponent : ∃ e, (match m.exponentText with
    | [] => some 0
    | _ :: rest => readExponent? rest) = some e := by
  cases hexponent : m.exponent with
  | none => exact ⟨0, by simp [exponentText, hexponent]⟩
  | some e =>
    obtain ⟨hsign, hdigits⟩ := m.exponent_digits e hexponent
    obtain ⟨n, hn⟩ := hdigits.ofDigits?_eq
    have htext : m.exponentText = 'e' :: e.1 :: e.2 := by simp [exponentText, hexponent]
    rw [htext]
    rcases hsign with hsign | hsign <;> rw [hsign]
    · exact ⟨-Int.ofNat n, congrArg (Option.map _) hn⟩
    · exact ⟨Int.ofNat n, congrArg (Option.map _) hn⟩

/-- A fraction that was written is read. -/
theorem exists_fraction : ∃ f, (match m.fractionText with
    | [] => some []
    | _ :: rest => some rest) = some f ∧ ∀ c ∈ f, c.isDigit = true := by
  cases hfraction : m.fraction with
  | none => exact ⟨[], by simp [fractionText, hfraction], nofun⟩
  | some f =>
    exact ⟨f, by simp [fractionText, hfraction], (m.fraction_digits f hfraction).isDigit⟩

/-- An unsigned numeral is read. -/
theorem exists_readDecimal? : ∃ x, readDecimal? m.text = some x := by
  have hexponent : m.text.drop (m.whole ++ m.fractionText).length = m.exponentText := by
    rw [text, ← List.append_assoc, List.drop_left]
  have hfraction : (m.whole ++ m.fractionText).drop m.whole.length = m.fractionText :=
    List.drop_left
  obtain ⟨e, he⟩ := m.exists_exponent
  obtain ⟨f, hf, hdigits⟩ := m.exists_fraction
  obtain ⟨n, hn⟩ := (m.whole_digits.append hdigits).ofDigits?_eq
  unfold readDecimal?
  simp only [takeWhile_text, hexponent, takeWhile_whole, hfraction]
  generalize m.exponentText = exponent at he
  generalize m.fractionText = fraction at hf
  refine ⟨ofDecimal n (e - f.length), ?_⟩
  cases exponent <;> cases fraction <;> obtain rfl := Option.some.inj hf
  case nil.nil | nil.cons =>
    obtain rfl := Option.some.inj he
    exact congrArg (Option.bind · _) hn
  case cons.nil | cons.cons =>
    simp only [he]
    exact congrArg (Option.bind · _) hn

/-- Whether or not it is taken for one of the names, a numeral is read. -/
theorem exists_readMagnitude? : ∃ x, readMagnitude? m.text = some x := by
  unfold readMagnitude?
  dsimp only
  split
  · exact ⟨_, rfl⟩
  split
  · exact ⟨_, rfl⟩
  · exact m.exists_readDecimal?

/-- **A numeral is the text of a number.** -/
theorem exists_readFloat? (negative : Bool) : ∃ x, readFloat? (m.signed negative) = some x := by
  obtain ⟨x, hx⟩ := m.exists_readMagnitude?
  cases negative with
  | true => exact ⟨-x, congrArg (Option.map (- ·)) hx⟩
  | false =>
    obtain ⟨c, s, htext, hc⟩ := m.exists_text_eq_cons
    have hne {d : Char} (hd : d.isDigit = false) {rest : List Char} : m.text ≠ d :: rest := by
      intro heq
      rw [(List.cons.inj (htext.symm.trans heq)).1, hd] at hc
      exact Bool.false_ne_true hc
    have hunsigned : readFloat? m.text = readMagnitude? m.text := by
      unfold readFloat?
      split
      · exact absurd ‹m.text = _› (hne (by decide))
      · exact absurd ‹m.text = _› (hne (by decide))
      · rfl
    exact ⟨x, hunsigned.trans hx⟩

end Numeral

end Telemetry
