import Telemetry.Json.Reader
import Telemetry.Proofs.Decimal.Numerals
import Telemetry.Proofs.Text.Lines

/-!
# What is written is read

The text of a value is one line: no character below the space is in it, since strings are the only
place where one could stand, and there it is escaped. And the text says what the value is. It is
read to its end and nowhere beyond, so that the fields and items of a value are told apart whatever
texts are in it.

What is read is the value that was written, but for two things. The fields of an object are in the
order of their keys. And a number is the one that its text stands for: nothing if JSON cannot
express it. Neither shows where the fields are in that order already and the numbers are whole.

## Main definitions

* `Json.IsOneLine`: a text without characters below the space.
* `Json.readBack`: what a value is read as, after it was written.
* `Json.IsWhole`: every number in a value is a word of 64 bits.

## Main results

* `Json.isOneLine_write`: the text of a value is one line.
* `Json.readString?_chars`: a string is read back, whatever is in it.
* `Json.readValue?_write`: a value is read as far as it was written.
* `Json.ofText?_compact`: reading after writing.
* `Json.readBack_of_sorted`: what is read as it is.
-/

namespace Telemetry

namespace Json

open Text

variable {c : Char} {s t rest : List Char} {n : Nat}

/-! ### One line -/

/-- There is no character below the space in the text. -/
def IsOneLine (s : List Char) : Prop := ∀ c ∈ s, 0x20 ≤ c.toNat

instance : DecidablePred IsOneLine := fun s => List.decidableBAll (fun c : Char => 0x20 ≤ c.toNat) s

namespace IsOneLine

theorem nil : IsOneLine [] := nofun

theorem cons (hc : 0x20 ≤ c.toNat) (hs : IsOneLine s) : IsOneLine (c :: s) :=
  List.forall_mem_cons.mpr ⟨hc, hs⟩

theorem append (hs : IsOneLine s) (ht : IsOneLine t) : IsOneLine (s ++ t) :=
  List.forall_mem_append.mpr ⟨hs, ht⟩

end IsOneLine

theorem isOneLine_escapeChar (c : Char) : IsOneLine (escapeChar c) := by
  have hcode : ∀ n < 0x20, IsOneLine (hexFixed 4 n) := by
    decide
  unfold escapeChar
  repeat (split; · exact .cons (by decide) (.cons (by decide) .nil))
  split
  · rename_i hcontrol
    exact .append (.cons (by decide) (.cons (by decide) .nil)) (hcode _ hcontrol)
  · rename_i hprintable
    exact .cons (Nat.le_of_not_lt hprintable) .nil

theorem isOneLine_writeString (s : String) : IsOneLine (writeString s) := by
  have hchars : IsOneLine (s.toList.flatMap escapeChar) := by
    intro d hd
    obtain ⟨c, -, hd⟩ := List.mem_flatMap.mp hd
    exact isOneLine_escapeChar c d hd
  exact .cons (by decide) (hchars.append (.cons (by decide) .nil))

theorem isOneLine_writeNumber (n : Number) : IsOneLine (writeNumber n) := by
  rcases exists_numeral n with h | ⟨m, negative, h⟩ <;> rw [h]
  · decide
  · intro c hc
    rcases m.isDigit_or_of_mem_signed hc with hdigit | rfl | rfl | rfl | rfl
    · exact Nat.le_trans (by decide) (Char.isDigit_iff_toNat.mp hdigit).1
    all_goals decide

mutual

/-- **The text of a value is one line.** -/
theorem isOneLine_write : ∀ v : Json, IsOneLine v.write
  | .null => by decide
  | .bool true => by decide
  | .bool false => by decide
  | .num n => isOneLine_writeNumber n
  | .str s => isOneLine_writeString s
  | .arr items => .cons (by decide) ((isOneLine_writeItems items).append (.cons (by decide) .nil))
  | .obj fields =>
    .cons (by decide) ((isOneLine_writeFields fields).append (.cons (by decide) .nil))

theorem isOneLine_writeItems : ∀ items : List Json, IsOneLine (writeItems items)
  | [] => .nil
  | [v] => isOneLine_write v
  | v :: w :: rest =>
    (isOneLine_write v).append (.cons (by decide) (isOneLine_writeItems (w :: rest)))

theorem isOneLine_writeFields : ∀ fields : List (String × Json), IsOneLine (writeFields fields)
  | [] => .nil
  | [(k, v)] => (isOneLine_writeString k).append (.cons (by decide) (isOneLine_write v))
  | (k, v) :: f :: rest =>
    (isOneLine_writeString k).append (.cons (by decide)
      ((isOneLine_write v).append (.cons (by decide) (isOneLine_writeFields (f :: rest)))))

end

/-! ### Strings -/

/-- A code below the space is read back, with leading zeros. -/
theorem readEscaped?_hexFixed (h : c.toNat < 0x20) (rest : List Char) :
    readEscaped? (hexFixed 4 c.toNat ++ rest) = some (c, rest) := by
  have hunit : readUnit? (hexFixed 4 c.toNat ++ rest) = some (c.toNat, rest) := by
    have hdigits : ofHexDigits? (hexFixed 4 c.toNat) = some c.toNat :=
      ofHexDigits?_hexFixed (Nat.lt_of_lt_of_le h (by decide))
    exact congrArg (Option.map (·, rest)) hdigits
  have hhigh : ¬ 0xd800 ≤ c.toNat := by omega
  have hlow : ¬ 0xdc00 ≤ c.toNat := by omega
  simp [readEscaped?, hunit, hhigh, hlow]

/-- **A character is read as it stands in a string**, and what follows it is read after it. -/
theorem readString?_escapeChar (acc : List Char) (n : Nat) (c : Char) (rest : List Char) :
    readString? acc (n + 1) (escapeChar c ++ rest) = readString? (c :: acc) n rest := by
  unfold escapeChar
  repeat (split; · rename_i h; rw [h]; rfl)
  split
  · rename_i hcontrol
    rw [List.append_assoc, List.cons_append, List.cons_append, List.nil_append, readString?,
      readEscaped?_hexFixed hcontrol]
  · rename_i hquote hslash _ _ _ _ _ hprintable
    rw [List.singleton_append, readString?]
    · rw [if_neg hprintable]
    all_goals simp_all

theorem readString?_flatMap (acc s : List Char) (hn : s.length < n) (rest : List Char) :
    readString? acc n (s.flatMap escapeChar ++ '"' :: rest) =
      some (String.ofList (acc.reverse ++ s), rest) := by
  induction s generalizing acc n with
  | nil =>
    obtain ⟨n, rfl⟩ := Nat.exists_eq_add_one.mpr hn
    rw [List.append_nil]
    rfl
  | cons c s ih =>
    obtain ⟨n, rfl⟩ := Nat.exists_eq_add_one.mpr (Nat.zero_lt_of_lt hn)
    rw [List.flatMap_cons, List.append_assoc, readString?_escapeChar,
      ih (c :: acc) (by simpa using hn), List.reverse_cons, List.append_assoc,
      List.singleton_append]

/-- **A string is read back**, whatever is in it. -/
theorem readString?_chars (s : String) (hn : s.toList.length < n) (rest : List Char) :
    readString? [] n (s.toList.flatMap escapeChar ++ '"' :: rest) = some (s, rest) := by
  rw [readString?_flatMap [] s.toList hn, List.reverse_nil, List.nil_append, String.ofList_toList]

/-! ### What is read -/

/-- The number that its text stands for; nothing if JSON cannot express it. -/
def readBackNumber (n : Number) : Json :=
  match ofNumberToken? (writeNumber n) with
  | some x => .num x
  | none => .null

mutual

/-- What a value is read as, after it was written. -/
def readBack : Json → Json
  | .null => .null
  | .bool b => .bool b
  | .num n => readBackNumber n
  | .str s => .str s
  | .arr items => .arr (readBackItems items)
  | .obj fields => .obj (Fields.ofList (readBackFields fields))

/-- What the items of a list are read as. -/
def readBackItems : List Json → List Json
  | [] => []
  | v :: rest => v.readBack :: readBackItems rest

/-- What the fields of an object are read as, in the order of the text. -/
def readBackFields : List (String × Json) → List (String × Json)
  | [] => []
  | (k, v) :: rest => (k, v.readBack) :: readBackFields rest

end

/-! ### Numbers -/

/-- A number does not go on in the text. -/
def IsEnded (s : List Char) : Prop := ∀ c ∈ s.head?, isNumberChar c = false

theorem isEnded_cons (h : isNumberChar c = false) : IsEnded (c :: s) := fun _ hd =>
  Option.mem_some.mp hd ▸ h

theorem skipBlanks_cons (h : 0x20 < c.toNat) (s : List Char) : skipBlanks (c :: s) = c :: s := by
  have hne {d : Char} (hd : d.toNat ≤ 0x20) : c ≠ d := by
    rintro rfl
    omega
  have hspace : c ≠ ' ' := hne (by decide)
  have hfeed : c ≠ '\n' := hne (by decide)
  have hreturn : c ≠ '\r' := hne (by decide)
  have htab : c ≠ '\t' := hne (by decide)
  simp [skipBlanks, hspace, hfeed, hreturn, htab]

theorem toNat_of_sign_or_digit (h : c = '-' ∨ c.isDigit = true) :
    0x2d ≤ c.toNat ∧ c.toNat ≤ 0x39 := by
  rcases h with rfl | h
  · decide
  · obtain ⟨hlow, hhigh⟩ := Char.isDigit_iff_toNat.mp h
    exact ⟨Nat.le_trans (by decide) hlow, hhigh⟩

/-- What begins like a number is read as one, as far as it goes. -/
theorem readValue?_of_sign_or_digit (h : c = '-' ∨ c.isDigit = true) (n : Nat) (s : List Char) :
    readValue? (n + 1) (c :: s) =
      (ofNumberToken? ((c :: s).takeWhile isNumberChar)).map fun x =>
        (.num x, (c :: s).drop ((c :: s).takeWhile isNumberChar).length) := by
  obtain ⟨hlow, hhigh⟩ := toNat_of_sign_or_digit h
  rw [readValue?, skipBlanks_cons (Nat.lt_of_lt_of_le (by decide) hlow)]
  split
  case h_7 => rfl
  all_goals
    rename_i heq
    rw [(List.cons.inj heq).1] at hlow hhigh
    exact absurd (And.intro hlow hhigh) (by decide)

theorem exists_ofNumberToken? (m : Numeral) (negative : Bool) :
    ∃ x, ofNumberToken? (m.signed negative) = some x := by
  obtain ⟨x, hx⟩ := m.exists_readFloat? negative
  have hfloat : (readFloat? (m.signed negative)).map Number.float = some (.float x) :=
    congrArg (Option.map _) hx
  unfold ofNumberToken?
  dsimp only
  split
  · split
    · exact ⟨_, rfl⟩
    split
    · exact ⟨_, rfl⟩
    · exact ⟨_, hfloat⟩
  · exact ⟨_, hfloat⟩

theorem isNumberChar_of_mem_signed (m : Numeral) (negative : Bool) :
    ∀ c ∈ m.signed negative, isNumberChar c = true := by
  intro c hc
  rcases m.isDigit_or_of_mem_signed hc with hdigit | rfl | rfl | rfl | rfl
  · simp [isNumberChar, hdigit]
  all_goals rfl

/-- **A number is read to its end.** -/
theorem readValue?_writeNumber (x : Number) (n : Nat) (hrest : IsEnded rest) :
    readValue? (n + 1) (writeNumber x ++ rest) = some (readBackNumber x, rest) := by
  rcases exists_numeral x with h | ⟨m, negative, h⟩
  · have hnone : ofNumberToken? ['n', 'u', 'l', 'l'] = none := by decide
    rw [readBackNumber, h, hnone]
    rfl
  · obtain ⟨c, s, htext, hc⟩ := m.exists_signed_eq_cons negative
    obtain ⟨y, hy⟩ := exists_ofNumberToken? m negative
    have htoken : (m.signed negative ++ rest).takeWhile isNumberChar = m.signed negative := by
      rw [List.takeWhile_append_of_pos (isNumberChar_of_mem_signed m negative)]
      cases rest with
      | nil => simp
      | cons d rest => simp [hrest d rfl]
    have hread := readValue?_of_sign_or_digit hc n (s ++ rest)
    rw [← List.cons_append, ← htext, htoken, hy, List.drop_left] at hread
    rw [readBackNumber, h, hy]
    exact hread

/-! ### Lists and objects -/

/-- A value begins with a character that is neither white space nor the end of a list. -/
theorem exists_write_eq_cons (v : Json) : ∃ c s, v.write = c :: s ∧ 0x20 < c.toNat ∧ c ≠ ']' := by
  cases v with
  | null => exact ⟨_, _, rfl, by decide, by decide⟩
  | bool b => cases b <;> exact ⟨_, _, rfl, by decide, by decide⟩
  | num n =>
    rcases exists_numeral n with h | ⟨m, negative, h⟩
    · exact ⟨_, _, h, by decide, by decide⟩
    · obtain ⟨c, s, htext, hc⟩ := m.exists_signed_eq_cons negative
      obtain ⟨hlow, hhigh⟩ := toNat_of_sign_or_digit hc
      refine ⟨c, s, h.trans htext, by omega, ?_⟩
      rintro rfl
      exact absurd hhigh (by decide)
  | str s => exact ⟨_, _, rfl, by decide, by decide⟩
  | arr items => exact ⟨_, _, rfl, by decide, by decide⟩
  | obj fields => exact ⟨_, _, rfl, by decide, by decide⟩

theorem exists_writeItems_eq_cons (v : Json) (items : List Json) :
    ∃ c s, writeItems (v :: items) = c :: s ∧ 0x20 < c.toNat ∧ c ≠ ']' := by
  obtain ⟨c, s, hv, hc⟩ := exists_write_eq_cons v
  cases items with
  | nil => exact ⟨c, s, hv, hc⟩
  | cons w items => exact ⟨c, _, by rw [writeItems, hv]; rfl, hc⟩

theorem readValue?_arr (hc : 0x20 < c.toNat) (hend : c ≠ ']') (n : Nat) (s : List Char) :
    readValue? (n + 1) ('[' :: c :: s) =
      (readItems? n [] (c :: s)).map fun (items, r) => (.arr items, r) := by
  rw [readValue?, skipBlanks_cons (by decide)]
  simp only [skipBlanks_cons hc]
  split
  · rename_i heq
    exact absurd (List.cons.inj heq).1 hend
  · rfl

theorem exists_writeFields_eq_cons (f : String × Json) (fields : Fields) :
    ∃ s, writeFields (f :: fields) = '"' :: s := by
  cases fields <;> exact ⟨_, rfl⟩

theorem readValue?_obj (n : Nat) (s : List Char) :
    readValue? (n + 1) ('\x7b' :: '"' :: s) =
      (readFields? n [] ('"' :: s)).map fun (fields, r) => (.obj fields, r) := rfl

theorem readItems?_of_value {v : Json} {acc : List Json}
    (hv : readValue? n s = some (v, ',' :: rest)) :
    readItems? (n + 1) acc s = readItems? n (v :: acc) rest := by
  rw [readItems?, hv]
  rfl

theorem readItems?_of_last {v : Json} {acc : List Json}
    (hv : readValue? n s = some (v, ']' :: rest)) :
    readItems? (n + 1) acc s = some ((v :: acc).reverse, rest) := by
  rw [readItems?, hv]
  rfl

theorem writeString_append (s : String) (t : List Char) :
    writeString s ++ t = '"' :: (s.toList.flatMap escapeChar ++ '"' :: t) := by
  simp [writeString]

/-- The key of a field is read before its value. -/
theorem readFields?_key {k : String} (hk : k.toList.length < n) (acc : Fields) (s : List Char) :
    readFields? (n + 1) acc (writeString k ++ ':' :: s) =
      match readValue? n s with
      | none => none
      | some (v, rest) =>
        match skipBlanks rest with
        | ',' :: rest' => readFields? n (acc.set k v) rest'
        | '\x7d' :: rest' => some (acc.set k v, rest')
        | _ => none := by
  rw [writeString_append, readFields?, skipBlanks_cons (by decide)]
  simp only [readString?_chars k hk]
  rfl

theorem readFields?_of_value {k : String} {v : Json} {acc : Fields}
    (hk : k.toList.length < n) (hv : readValue? n s = some (v, ',' :: rest)) :
    readFields? (n + 1) acc (writeString k ++ ':' :: s) = readFields? n (acc.set k v) rest := by
  rw [readFields?_key hk, hv]
  rfl

theorem readFields?_of_last {k : String} {v : Json} {acc : Fields}
    (hk : k.toList.length < n) (hv : readValue? n s = some (v, '\x7d' :: rest)) :
    readFields? (n + 1) acc (writeString k ++ ':' :: s) = some (acc.set k v, rest) := by
  rw [readFields?_key hk, hv]
  rfl

/-! ### Room for nested calls -/

theorem escapeChar_ne_nil (c : Char) : escapeChar c ≠ [] := by
  unfold escapeChar
  repeat (split; · exact List.cons_ne_nil _ _)
  exact List.cons_ne_nil _ _

/-- No string is shorter in the text than it is. -/
theorem length_lt_length_writeString (s : String) :
    s.toList.length + 1 < (writeString s).length := by
  have hchars : s.toList.length ≤ (s.toList.flatMap escapeChar).length := by
    induction s.toList with
    | nil => exact Nat.le_refl 0
    | cons c rest ih =>
      have hone := List.length_pos_iff.mpr (escapeChar_ne_nil c)
      rw [List.flatMap_cons, List.length_append, List.length_cons]
      omega
  simp only [writeString, List.length_cons, List.length_append, List.length_nil]
  omega

theorem length_write_pos (v : Json) : 0 < v.write.length := by
  obtain ⟨c, s, hv, -⟩ := exists_write_eq_cons v
  rw [hv]
  exact Nat.zero_lt_succ _

theorem exists_eq_add_one_of_write {v : Json} (h : v.write.length ≤ n) : ∃ k, n = k + 1 :=
  Nat.exists_eq_add_one.mpr (Nat.lt_of_lt_of_le (length_write_pos v) h)

/-! ### Values -/

mutual

/-- **A value is read as far as it was written.** -/
theorem readValue?_write : ∀ (v : Json) (n : Nat) (rest : List Char), v.write.length ≤ n →
    IsEnded rest → readValue? n (v.write ++ rest) = some (v.readBack, rest)
  | .null, n, rest, hn, _ => by
    obtain ⟨n, rfl⟩ := exists_eq_add_one_of_write hn
    rfl
  | .bool b, n, rest, hn, _ => by
    obtain ⟨n, rfl⟩ := exists_eq_add_one_of_write hn
    cases b <;> rfl
  | .num x, n, rest, hn, hrest => by
    obtain ⟨n, rfl⟩ := exists_eq_add_one_of_write hn
    exact readValue?_writeNumber x n hrest
  | .str s, n, rest, hn, _ => by
    obtain ⟨n, rfl⟩ := exists_eq_add_one_of_write hn
    have hlength := length_lt_length_writeString s
    have hroom : s.toList.length < n := by
      rw [write] at hn
      omega
    rw [write, writeString_append]
    exact congrArg (Option.map _) (readString?_chars s hroom rest)
  | .arr [], n, rest, hn, _ => by
    obtain ⟨n, rfl⟩ := exists_eq_add_one_of_write hn
    rfl
  | .arr (v :: items), n, rest, hn, _ => by
    obtain ⟨n, rfl⟩ := exists_eq_add_one_of_write hn
    have hroom : (writeItems (v :: items)).length < n := by
      rw [write, List.length_cons, List.length_append, List.length_singleton] at hn
      omega
    have hitems := readItems?_writeItems (v :: items) [] n rest (List.cons_ne_nil v items) hroom
    obtain ⟨c, s, hfront, hc, hend⟩ := exists_writeItems_eq_cons v items
    rw [hfront, List.cons_append] at hitems
    rw [write, hfront, List.cons_append, List.cons_append, List.cons_append, List.append_assoc,
      List.singleton_append, readValue?_arr hc hend, hitems]
    rfl
  | .obj [], n, rest, hn, _ => by
    obtain ⟨n, rfl⟩ := exists_eq_add_one_of_write hn
    rfl
  | .obj (f :: fields), n, rest, hn, _ => by
    obtain ⟨n, rfl⟩ := exists_eq_add_one_of_write hn
    have hroom : (writeFields (f :: fields)).length < n := by
      rw [write, List.length_cons, List.length_append, List.length_singleton] at hn
      omega
    have hfields :=
      readFields?_writeFields (f :: fields) [] n rest (List.cons_ne_nil f fields) hroom
    obtain ⟨s, hfront⟩ := exists_writeFields_eq_cons f fields
    rw [hfront, List.cons_append] at hfields
    rw [write, hfront, List.cons_append, List.cons_append, List.cons_append, List.append_assoc,
      List.singleton_append, readValue?_obj, hfields]
    rfl

theorem readItems?_writeItems : ∀ (items acc : List Json) (n : Nat) (rest : List Char),
    items ≠ [] → (writeItems items).length < n →
    readItems? n acc (writeItems items ++ ']' :: rest) =
      some (acc.reverse ++ readBackItems items, rest)
  | [], _, _, _, hsome, _ => absurd rfl hsome
  | [v], acc, n, rest, _, hn => by
    obtain ⟨n, rfl⟩ := Nat.exists_eq_add_one.mpr (Nat.zero_lt_of_lt hn)
    have hv := readValue?_write v n (']' :: rest) (Nat.le_of_lt_succ hn) (isEnded_cons rfl)
    rw [writeItems, readItems?_of_last hv, List.reverse_cons]
    rfl
  | v :: w :: items, acc, n, rest, _, hn => by
    obtain ⟨n, rfl⟩ := Nat.exists_eq_add_one.mpr (Nat.zero_lt_of_lt hn)
    rw [writeItems, List.length_append, List.length_cons] at hn
    have hv := readValue?_write v n (',' :: (writeItems (w :: items) ++ ']' :: rest)) (by omega)
      (isEnded_cons rfl)
    have hroom : (writeItems (w :: items)).length < n := by omega
    rw [writeItems, List.append_assoc, List.cons_append, readItems?_of_value hv,
      readItems?_writeItems (w :: items) _ n rest (List.cons_ne_nil w items) hroom,
      List.reverse_cons, List.append_assoc]
    rfl

theorem readFields?_writeFields : ∀ (fields : List (String × Json)) (acc : Fields) (n : Nat)
    (rest : List Char), fields ≠ [] → (writeFields fields).length < n →
    readFields? n acc (writeFields fields ++ '\x7d' :: rest) =
      some (acc.extend (readBackFields fields), rest)
  | [], _, _, _, hsome, _ => absurd rfl hsome
  | [(k, v)], acc, n, rest, _, hn => by
    obtain ⟨n, rfl⟩ := Nat.exists_eq_add_one.mpr (Nat.zero_lt_of_lt hn)
    have hkey := length_lt_length_writeString k
    rw [writeFields, List.length_append, List.length_cons] at hn
    have hv := readValue?_write v n ('\x7d' :: rest) (by omega) (isEnded_cons rfl)
    rw [writeFields, List.append_assoc, List.cons_append, readFields?_of_last (by omega) hv]
    rfl
  | (k, v) :: f :: fields, acc, n, rest, _, hn => by
    obtain ⟨n, rfl⟩ := Nat.exists_eq_add_one.mpr (Nat.zero_lt_of_lt hn)
    have hkey := length_lt_length_writeString k
    rw [writeFields, List.length_append, List.length_cons, List.length_append,
      List.length_cons] at hn
    have hv := readValue?_write v n (',' :: (writeFields (f :: fields) ++ '\x7d' :: rest))
      (by omega) (isEnded_cons rfl)
    have hroom : (writeFields (f :: fields)).length < n := by omega
    rw [writeFields, List.append_assoc, List.cons_append, List.append_assoc, List.cons_append,
      readFields?_of_value (by omega) hv,
      readFields?_writeFields (f :: fields) _ n rest (List.cons_ne_nil f fields) hroom]
    rfl

end

/-- **Reading after writing.** -/
theorem ofText?_compact (v : Json) : ofText? v.compact = some v.readBack := by
  have hread := readValue?_write v (2 * v.write.length + 2) [] (by omega) nofun
  rw [List.append_nil] at hread
  simp only [ofText?, compact, String.toList_ofList, hread]
  rfl

end Json

/-! ### Fields in the order of their keys -/

namespace Fields

variable {key : String} {value : Json} {fields other : Fields}

/-- A field whose key is past all others goes to the end. -/
theorem set_of_forall_lt (h : ∀ k ∈ fields.map (·.1), k < key) :
    fields.set key value = fields ++ [(key, value)] := by
  induction fields with
  | nil => rfl
  | cons f rest ih =>
    obtain ⟨hf, hrest⟩ := List.forall_mem_cons.mp h
    have hne : f.1 ≠ key := fun heq => String.lt_irrefl key (heq ▸ hf)
    rw [set, if_neg hne, if_neg (String.lt_asymm hf), ih hrest, List.cons_append]

theorem extend_of_sorted (h : ((fields ++ other).map (·.1)).Pairwise (· < ·)) :
    fields.extend other = fields ++ other := by
  induction other generalizing fields with
  | nil => exact (List.append_nil fields).symm
  | cons f rest ih =>
    have hlast : ∀ k ∈ fields.map (·.1), k < f.1 := fun k hk => by
      rw [List.map_append, List.pairwise_append] at h
      exact h.2.2 k hk f.1 List.mem_cons_self
    have hset : fields.set f.1 f.2 = fields ++ [f] := set_of_forall_lt hlast
    rw [List.append_cons] at h ⊢
    rw [← ih h, ← hset]
    rfl

/-- Pairs in the order of their keys are the fields of an object as they are. -/
theorem ofList_of_sorted (h : (fields.map (·.1)).Pairwise (· < ·)) : ofList fields = fields :=
  extend_of_sorted h

end Fields

namespace Json

/-! ### Values that are read as they are -/

mutual

/-- Every number in the value is whole and fits a word of 64 bits, signed or not. -/
def IsWhole : Json → Prop
  | .num (.int n) => -(UInt64.size / 2 : Int) ≤ n ∧ n < UInt64.size
  | .num (.float _) => False
  | .arr items => AreWhole items
  | .obj fields => FieldsAreWhole fields
  | _ => True

/-- Every number in the items is whole. -/
def AreWhole : List Json → Prop
  | [] => True
  | v :: rest => v.IsWhole ∧ AreWhole rest

/-- Every number in the fields is whole. -/
def FieldsAreWhole : List (String × Json) → Prop
  | [] => True
  | (_, v) :: rest => v.IsWhole ∧ FieldsAreWhole rest

end

theorem readBackNumber_int {n : Int} (hlow : -(UInt64.size / 2 : Int) ≤ n)
    (hhigh : n < UInt64.size) : readBackNumber (.int n) = .num (.int n) := by
  obtain ⟨d, digits, hdigits⟩ := List.exists_cons_of_ne_nil
    (Nat.toDigits_ne_nil (n := n.natAbs) (b := 10))
  have hd : d ≠ '-' := by
    rintro rfl
    exact Text.not_mem_toDigits (by decide) n.natAbs (hdigits ▸ List.mem_cons_self)
  have hvalue : Text.ofDigits? (d :: digits) = some n.natAbs :=
    hdigits ▸ Text.ofDigits?_toDigits n.natAbs
  by_cases hn : n < 0
  · have htoken : ofNumberToken? ('-' :: d :: digits) = some (.int n) := by
      have hpos : 0 < n.natAbs := by omega
      have hfits : n.natAbs ≤ UInt64.size / 2 := by omega
      have hneg : -Int.ofNat n.natAbs = n := (Int.eq_neg_natAbs_of_nonpos (by omega)).symm
      simp only [ofNumberToken?, List.head?_cons, decide_true, if_true, List.drop_succ_cons,
        List.drop_zero, hvalue, hpos, hfits, Bool.and_self, hneg]
    rw [readBackNumber, writeNumber, if_pos hn, hdigits, List.singleton_append, htoken]
  · have htoken : ofNumberToken? (d :: digits) = some (.int n) := by
      have hfits : n.natAbs < UInt64.size := by omega
      have hsame : (n.natAbs : Int) = n := Int.natAbs_of_nonneg (by omega)
      simp only [ofNumberToken?, List.head?_cons, Option.some.injEq, hd, decide_false,
        Bool.false_eq_true, if_false, hvalue, Bool.false_and, Bool.not_false, Bool.true_and,
        hfits, decide_true, if_true, hsame]
    rw [readBackNumber, writeNumber, if_neg hn, hdigits, List.nil_append, htoken]

mutual

/-- **A sorted value with whole numbers is read as it is.** -/
theorem readBack_of_sorted : ∀ v : Json, v.Sorted → v.IsWhole → v.readBack = v
  | .null, _, _ => rfl
  | .bool _, _, _ => rfl
  | .num (.int _), _, h => readBackNumber_int h.1 h.2
  | .num (.float _), _, h => absurd h id
  | .str _, _, _ => rfl
  | .arr items, hs, h => congrArg Json.arr (readBackItems_of_sorted items hs h)
  | .obj fields, hs, h => by
    rw [readBack, readBackFields_of_sorted fields hs.2 h, Fields.ofList_of_sorted hs.1]

theorem readBackItems_of_sorted : ∀ items : List Json, SortedItems items → AreWhole items →
    readBackItems items = items
  | [], _, _ => rfl
  | v :: rest, hs, h => by
    rw [readBackItems, readBack_of_sorted v hs.1 h.1, readBackItems_of_sorted rest hs.2 h.2]

theorem readBackFields_of_sorted : ∀ fields : List (String × Json), SortedFields fields →
    FieldsAreWhole fields → readBackFields fields = fields
  | [], _, _ => rfl
  | (k, v) :: rest, hs, h => by
    rw [readBackFields, readBack_of_sorted v hs.1 h.1, readBackFields_of_sorted rest hs.2 h.2]

end

end Json

end Telemetry
