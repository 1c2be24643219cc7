import Telemetry.Proofs.Text.Pieces
import Telemetry.Proofs.Text.Trimming
import Telemetry.Text.Integer

/-!
# Reading texts line by line

A text that is written line by line is read line by line: up to the first line feed it is one line,
but for a carriage return, and what follows has the lines that it has by itself. The same goes for
what a line is cut into, from the front at the first separator and from the back at the last one, so
that the part on the other side may have separators of its own.

## Main definitions

* `chomp`: a line without the carriage return at its end.

## Main results

* `lines_append_cons`, `lines_of_not_mem`: the lines of a text, one after the other.
* `afterText?_append`, `splitOnceLast?_append`: cutting a line in two.
* `readNat?_toDigits`: a number that is written out is read back.
-/

namespace Telemetry.Text

variable {a s p t : List Char} {c sep : Char} {n bound : Nat}

/-! ### Lines -/

/-- A line without the carriage return at its end. -/
def chomp (line : List Char) : List Char :=
  if line.getLast? = some '\r' then line.dropLast else line

theorem chomp_of_getLast? (h : s.getLast? ≠ some '\r') : chomp s = s := if_neg h

theorem chomp_cons (hs : s ≠ []) : chomp (c :: s) = c :: chomp s := by
  rw [chomp, chomp, List.getLast?_cons_of_ne_nil hs]
  split
  · rw [List.dropLast_cons_of_ne_nil hs]
  · rfl

theorem chomp_subset (s : List Char) : chomp s ⊆ s := by
  rw [chomp]
  split
  · exact List.dropLast_subset s
  · exact List.Subset.refl s

/-- **The first line** ends at the first line feed. -/
theorem lines_append_cons (ha : '\n' ∉ a) (s : List Char) :
    lines (a ++ '\n' :: s) = chomp a :: lines s := by
  have hsplit := List.splitOn_append_cons_self_of_not_mem ha s
  obtain ⟨q, rest, hpieces⟩ := List.exists_cons_of_ne_nil (List.splitOn_ne_nil '\n' s)
  simp only [lines, hsplit, hpieces, List.getLastD_cons]
  split <;> rfl

/-- A text without a line feed is one line, unless it is empty. -/
theorem lines_of_not_mem (ha : '\n' ∉ a) : lines a = if a = [] then [] else [a] := by
  unfold lines
  rw [List.splitOn_eq_singleton ha]
  cases a <;> rfl

/-! ### The parts of a line -/

theorem containsText_eq (p s : List Char) : containsText p s = decide (p <:+: s) := by
  rw [Bool.eq_iff_iff, decide_eq_true_iff]
  induction s with
  | nil => simp [containsText]
  | cons c rest ih =>
    rw [containsText, Bool.or_eq_true, ih, beginsWith_iff, List.infix_cons_iff]

/-- The first occurrence of a text is where it was put, if its first character does not occur
before. -/
theorem afterText?_append (ha : c ∉ a) (p s : List Char) :
    afterText? (c :: p) (a ++ (c :: p ++ s)) = some s := by
  induction a with
  | nil =>
    have hfront : beginsWith (c :: p) (c :: (p ++ s)) = true :=
      beginsWith_iff.mpr (List.prefix_append (c :: p) s)
    rw [List.nil_append, List.cons_append, afterText?, if_pos hfront]
    simp
  | cons d a ih =>
    obtain ⟨hd, ha⟩ := not_or.mp (mt List.mem_cons.mpr ha)
    have hfront : ¬ beginsWith (c :: p) (d :: (a ++ (c :: p ++ s))) = true := fun h =>
      hd (List.cons_prefix_cons.mp (beginsWith_iff.mp h)).1
    rw [List.cons_append, afterText?, if_neg hfront, ih ha]

/-- What follows the last separator has none. -/
theorem splitOnceLast?_append (hs : sep ∉ s) (a : List Char) :
    splitOnceLast? sep (a ++ sep :: s) = some (a, s) := by
  have hreverse : (a ++ sep :: s).reverse = s.reverse ++ sep :: a.reverse := by simp
  rw [splitOnceLast?, hreverse, splitOnce?_append (mt List.mem_reverse.mp hs)]
  simp

/-- The last piece is what follows the last separator. -/
theorem getLastD_splitOnP (isSep : Char → Bool) (s : List Char) :
    (s.splitOnP isSep).getLastD [] = (s.reverse.takeWhile (!isSep ·)).reverse := by
  have hname : ∀ c ∈ (s.reverse.takeWhile (!isSep ·)).reverse, isSep c = false := fun c hc => by
    simpa using List.mem_takeWhile_imp (List.mem_reverse.mp hc)
  have hsplit : s = (s.reverse.dropWhile (!isSep ·)).reverse ++
      (s.reverse.takeWhile (!isSep ·)).reverse := by
    rw [← List.reverse_append, List.takeWhile_append_dropWhile, List.reverse_reverse]
  generalize (s.reverse.takeWhile (!isSep ·)).reverse = name at hname hsplit ⊢
  cases hfront : s.reverse.dropWhile (!isSep ·) with
  | nil =>
    obtain rfl : s = name := by simpa [hfront] using hsplit
    rw [List.splitOnP_eq_singleton hname]
    rfl
  | cons sep front =>
    have hsep : isSep sep = true := by
      simpa [hfront] using List.head_dropWhile_not (!isSep ·) (l := s.reverse) (by simp [hfront])
    rw [hfront, List.reverse_cons, List.append_assoc, List.singleton_append] at hsplit
    rw [hsplit, List.splitOnP_append_cons _ _ hsep, List.splitOnP_eq_singleton hname,
      List.getLastD_concat]

/-- The end of a text that has been trimmed is not white space. -/
theorem isBlank_of_getLast?_trim (h : trim s = s) (hc : s.getLast? = some c) :
    isBlank c = false := by
  obtain ⟨front, rfl⟩ := List.getLast?_eq_some_iff.mp hc
  by_contra hblank
  have hlast : AllBlank [c] := by simpa [AllBlank] using hblank
  have hlength : (trimEnd (front ++ [c])).length ≤ front.length := by
    obtain ⟨b, hfront, -⟩ := exists_eq_append_trimEnd front
    rw [trimEnd_append hlast]
    exact (congrArg List.length hfront).symm ▸ by simp
  rw [trimEnd_of_trim h, List.length_append, List.length_singleton] at hlength
  omega

/-! ### Numbers -/

theorem isDigit_of_mem_toDigits (h : c ∈ Nat.toDigits 10 n) : c.isDigit = true :=
  Nat.isDigit_of_mem_toDigits (by decide) (by decide) h

theorem not_mem_toDigits (hc : c.isDigit = false) (n : Nat) : c ∉ Nat.toDigits 10 n := fun h =>
  Bool.false_ne_true (hc.symm.trans (isDigit_of_mem_toDigits h))

theorem all_isDigit_toDigits (n : Nat) : (Nat.toDigits 10 n).all Char.isDigit = true :=
  List.all_eq_true.mpr fun _ hc => isDigit_of_mem_toDigits hc

/-- A text that ends with a number ends with a digit. -/
theorem isDigit_of_getLast?_append_toDigits
    (h : (s ++ Nat.toDigits 10 n).getLast? = some c) : c.isDigit = true := by
  rw [List.getLast?_append_of_ne_nil s Nat.toDigits_ne_nil] at h
  exact isDigit_of_mem_toDigits (List.mem_of_getLast? h)

theorem ofDigits?_toDigits (n : Nat) : ofDigits? (Nat.toDigits 10 n) = some n := by
  have hvalue := Nat.ofDigitChars_ten_toDigits (n := n)
  rw [Nat.ofDigitChars_eq_foldl] at hvalue
  rw [ofDigits?, if_neg (by simp [all_isDigit_toDigits, Nat.toDigits_ne_nil])]
  exact congrArg some hvalue

/-- **A number that is written out is read back**, if it is below the bound. -/
theorem readNat?_toDigits (h : n < bound) : readNat? bound (Nat.toDigits 10 n) = some n := by
  have hsign : ∀ rest, Nat.toDigits 10 n ≠ '+' :: rest := by
    intro rest heq
    have hplus : '+' ∈ Nat.toDigits 10 n := heq ▸ List.mem_cons_self
    exact not_mem_toDigits (by decide) n hplus
  unfold readNat?
  split
  · rename_i rest heq
    exact absurd heq (hsign rest)
  · dsimp only
    rw [ofDigits?_toDigits, Option.filter_some, if_pos (by simpa using h)]

end Telemetry.Text
