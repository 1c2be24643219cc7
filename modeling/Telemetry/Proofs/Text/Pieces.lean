import Mathlib.Data.List.Infix
import Telemetry.Text.Split

/-!
# Cutting at a separator and joining again

Joining the pieces of a text gives the text back, whatever the separator is. The other way round
takes more: pieces that are joined could make up a separator where there was none, half of it from a
piece and half from the separator that follows. That needs a separator which begins as it ends; one
that does not is called unbordered, and cutting at it finds the pieces that were joined.

## Main definitions

* `Unbordered`.

## Main results

* `intercalate_splitText`: joining undoes cutting.
* `not_infix_of_mem_splitText`: no piece has the separator in it.
* `splitText_intercalate`: cutting at an unbordered separator undoes joining.
* `replaceText_append`: a text is exchanged where it stands, if it can stand nowhere else.
-/

namespace Telemetry.Text

variable {sep s p : List Char} {c : Char}

theorem beginsWith_iff : beginsWith sep s = true ↔ sep <+: s := List.isPrefixOf_iff_prefix

/-! ### The cases of cutting -/

theorem splitTextFrom_eq (sep : List Char) (n : Nat) (s : List Char) :
    splitTextFrom sep n s = splitText sep (s.drop n) := by
  induction s generalizing n with
  | nil => cases n <;> rfl
  | cons c rest ih =>
    cases n with
    | zero => rfl
    | succ n => exact ih n

@[simp] theorem splitText_nil (sep : List Char) : splitText sep [] = [[]] := rfl

/-- A separator at the front ends an empty piece. -/
theorem splitText_append_self (hsep : sep ≠ []) (s : List Char) :
    splitText sep (sep ++ s) = [] :: splitText sep s := by
  obtain ⟨c, sep, rfl⟩ := List.exists_cons_of_ne_nil hsep
  have hbegins : beginsWith (c :: sep) (c :: (sep ++ s)) = true :=
    beginsWith_iff.mpr (List.prefix_append (c :: sep) s)
  rw [List.cons_append, splitText, splitTextFrom, if_pos hbegins, splitTextFrom_eq]
  simp

/-- Any other character belongs to the first piece. -/
theorem splitText_cons (h : ¬ sep <+: c :: s) :
    splitText sep (c :: s) = (splitText sep s).modifyHead (c :: ·) := by
  rw [splitText, splitTextFrom, if_neg (fun hb => h (beginsWith_iff.mp hb))]
  rfl

/-- Induction along the cuts: either the text is empty, or a separator stands at its front, or one
more character comes before. -/
theorem splitText_induction {P : List Char → Prop} (hsep : sep ≠ []) (nil : P [])
    (cut : ∀ s, P s → P (sep ++ s)) (keep : ∀ c s, ¬ sep <+: c :: s → P s → P (c :: s))
    (s : List Char) : P s := by
  obtain ⟨n, hn⟩ : ∃ n, s.length = n := ⟨_, rfl⟩
  induction n using Nat.strong_induction_on generalizing s with
  | _ n ih =>
    cases s with
    | nil => exact nil
    | cons c rest =>
      by_cases h : sep <+: c :: rest
      · obtain ⟨s, hs⟩ := h
        have hpos : 0 < sep.length := List.length_pos_of_ne_nil hsep
        have hlen : s.length < n := by
          rw [← hn, ← hs, List.length_append]
          omega
        exact hs ▸ cut s (ih _ hlen s rfl)
      · exact keep c rest h (ih _ (by simp [← hn]) rest rfl)

/-! ### Joining what was cut -/

theorem splitText_ne_nil (hsep : sep ≠ []) (s : List Char) : splitText sep s ≠ [] := by
  induction s using splitText_induction hsep with
  | nil => simp
  | cut s _ => simp [splitText_append_self hsep]
  | keep c s h ih => simpa [splitText_cons h] using ih

/-- **Joining undoes cutting.** -/
theorem intercalate_splitText (hsep : sep ≠ []) (s : List Char) :
    List.intercalate sep (splitText sep s) = s := by
  induction s using splitText_induction hsep with
  | nil => simp
  | cut s ih =>
    obtain ⟨q, rest, hpieces⟩ := List.exists_cons_of_ne_nil (splitText_ne_nil hsep s)
    rw [hpieces] at ih
    rw [splitText_append_self hsep, hpieces, List.intercalate_cons_cons, ih, List.nil_append]
  | keep c s h ih =>
    obtain ⟨q, rest, hpieces⟩ := List.exists_cons_of_ne_nil (splitText_ne_nil hsep s)
    rw [hpieces] at ih
    rw [splitText_cons h, hpieces, List.modifyHead_cons]
    cases rest with
    | nil => simpa using ih
    | cons r rest =>
      rw [List.intercalate_cons_cons] at ih ⊢
      rw [← ih]
      simp

/-- The first piece stands at the front of the text. -/
theorem prefix_of_splitText {rest : List (List Char)} (hsep : sep ≠ [])
    (h : splitText sep s = p :: rest) : p <+: s := by
  have hjoin := intercalate_splitText hsep s
  rw [h] at hjoin
  cases rest with
  | nil => simp [← hjoin]
  | cons r rest =>
    rw [List.intercalate_cons_cons, List.append_assoc] at hjoin
    exact ⟨_, hjoin⟩

/-- The characters of a piece are characters of the text. -/
theorem subset_of_mem_splitText (hsep : sep ≠ []) (hp : p ∈ splitText sep s) : p ⊆ s := by
  induction s using splitText_induction hsep generalizing p with
  | nil => simp_all
  | cut s ih =>
    rw [splitText_append_self hsep, List.mem_cons] at hp
    rcases hp with rfl | hp
    · exact List.nil_subset _
    · exact List.Subset.trans (ih hp) (List.subset_append_right sep s)
  | keep c s h ih =>
    obtain ⟨q, rest, hpieces⟩ := List.exists_cons_of_ne_nil (splitText_ne_nil hsep s)
    rw [splitText_cons h, hpieces, List.modifyHead_cons, List.mem_cons] at hp
    rcases hp with rfl | hp
    · exact List.cons_subset_cons c (ih (by simp [hpieces]))
    · exact List.Subset.trans (ih (by simp [hpieces, hp])) (List.subset_cons_self c s)

/-- No piece has the separator in it. -/
theorem not_infix_of_mem_splitText (hsep : sep ≠ []) (hp : p ∈ splitText sep s) :
    ¬ sep <:+: p := by
  induction s using splitText_induction hsep generalizing p with
  | nil =>
    obtain rfl : p = [] := by simpa using hp
    simpa using hsep
  | cut s ih =>
    rw [splitText_append_self hsep, List.mem_cons] at hp
    rcases hp with rfl | hp
    · simpa using hsep
    · exact ih hp
  | keep c s h ih =>
    obtain ⟨q, rest, hpieces⟩ := List.exists_cons_of_ne_nil (splitText_ne_nil hsep s)
    rw [splitText_cons h, hpieces, List.modifyHead_cons, List.mem_cons] at hp
    rcases hp with rfl | hp
    · rw [List.infix_cons_iff]
      rintro (hfront | hinfix)
      · exact h (hfront.trans ((List.prefix_cons_inj c).mpr (prefix_of_splitText hsep hpieces)))
      · exact ih (by simp [hpieces]) hinfix
    · exact ih (by simp [hpieces, hp])

/-! ### Cutting what was joined -/

/-- No end of the separator is a beginning of it, except for the whole and for nothing. -/
def Unbordered (sep : List Char) : Prop :=
  ∀ a u, sep = a ++ u → a ≠ [] → u <+: sep → u = []

/-- A separator is found where it was put, and no earlier. -/
theorem not_prefix_of_unbordered (hsep : Unbordered sep) (hp : ¬ sep <:+: c :: p) (s : List Char) :
    ¬ sep <+: c :: (p ++ (sep ++ s)) := by
  rintro ⟨t, ht⟩
  rw [← List.cons_append] at ht
  rcases List.append_eq_append_iff.mp ht with ⟨u, hcp, -⟩ | ⟨u, hsplit, hu⟩
  · exact hp (hcp ▸ (List.prefix_append sep u).isInfix)
  · -- the separator would begin with its own end, of which the rest of it is the text before
    have hlen : u.length ≤ sep.length := by
      rw [hsplit, List.length_append]
      exact Nat.le_add_left _ _
    have hfront : u <+: sep :=
      List.prefix_of_prefix_length_le ⟨t, hu.symm⟩ (List.prefix_append sep s) hlen
    obtain rfl := hsep (c :: p) u hsplit (by simp) hfront
    rw [List.append_nil] at hsplit
    exact hp (hsplit ▸ List.infix_refl _)

theorem splitText_of_not_infix (hp : ¬ sep <:+: p) : splitText sep p = [p] := by
  induction p with
  | nil => rfl
  | cons c p ih =>
    rw [splitText_cons fun h => hp h.isInfix,
      ih fun h => hp (h.trans (List.suffix_cons c p).isInfix)]
    rfl

/-- A piece without the separator, and the separator after it, are cut off. -/
theorem splitText_append (hne : sep ≠ []) (hsep : Unbordered sep) (hp : ¬ sep <:+: p)
    (s : List Char) : splitText sep (p ++ (sep ++ s)) = p :: splitText sep s := by
  induction p with
  | nil => exact splitText_append_self hne s
  | cons c p ih =>
    rw [List.cons_append, splitText_cons (not_prefix_of_unbordered hsep hp s),
      ih fun h => hp (h.trans (List.suffix_cons c p).isInfix)]
    rfl

/-- **Cutting at an unbordered separator undoes joining.** -/
theorem splitText_intercalate {pieces : List (List Char)} (hne : sep ≠ [])
    (hsep : Unbordered sep) (hpieces : ∀ p ∈ pieces, ¬ sep <:+: p) (hsome : pieces ≠ []) :
    splitText sep (List.intercalate sep pieces) = pieces := by
  induction pieces with
  | nil => exact absurd rfl hsome
  | cons p rest ih =>
    cases rest with
    | nil => simpa using splitText_of_not_infix (hpieces p (by simp))
    | cons q rest =>
      rw [List.intercalate_cons_cons, List.append_assoc,
        splitText_append hne hsep (hpieces p (by simp)),
        ih (fun r hr => hpieces r (List.mem_cons_of_mem p hr)) (by simp)]

/-! ### Separators told by their first character -/

variable {a b : List Char}

/-- Cutting at a text of one character is cutting at that character. -/
theorem splitText_singleton (c : Char) (s : List Char) : splitText [c] s = s.splitOn c := by
  induction s with
  | nil => rfl
  | cons d s ih =>
    rw [List.splitOn_cons_eq_if_modifyHead, ← ih]
    by_cases h : d = c
    · rw [if_pos (beq_iff_eq.mpr h), h]
      exact splitText_append_self (List.cons_ne_nil c []) s
    · have hfront : ¬ [c] <+: d :: s := fun hprefix => h (List.cons_prefix_cons.mp hprefix).1.symm
      rw [if_neg (by simpa using h), splitText_cons hfront]

/-- No separator begins in a text without its first character. -/
theorem splitText_append_of_not_mem (ha : c ∉ a) (s : List Char) :
    splitText (c :: sep) (a ++ s) = (splitText (c :: sep) s).modifyHead (a ++ ·) := by
  induction a with
  | nil =>
    obtain ⟨q, rest, hpieces⟩ :=
      List.exists_cons_of_ne_nil (splitText_ne_nil (List.cons_ne_nil c sep) s)
    simp [hpieces]
  | cons d a ih =>
    obtain ⟨hd, ha⟩ := not_or.mp (mt List.mem_cons.mpr ha)
    have hfront : ¬ c :: sep <+: d :: (a ++ s) := fun h => hd (List.cons_prefix_cons.mp h).1
    rw [List.cons_append, splitText_cons hfront, ih ha, List.modifyHead_modifyHead]
    rfl

/-- **A text is exchanged where it stands**, once, if its first character occurs neither before it
nor after it. What it is made of besides does not matter. -/
theorem replaceText_append (ha : c ∉ a) (hb : c ∉ b) (replacement : List Char) :
    replaceText (c :: p) replacement (a ++ (c :: p ++ b)) = a ++ (replacement ++ b) := by
  have hrest : ¬ c :: p <:+: b := fun h => hb (h.subset List.mem_cons_self)
  rw [replaceText, splitText_append_of_not_mem ha, splitText_append_self (List.cons_ne_nil c p),
    splitText_of_not_infix hrest]
  simp [List.intercalate]

end Telemetry.Text
