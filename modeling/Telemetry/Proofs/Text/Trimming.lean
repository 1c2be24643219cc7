import Mathlib.Data.List.TakeWhile
import Telemetry.Text.Blank

/-!
# Cutting off white space, and cutting at a separator

White space at the ends of a text goes away, and nothing else does. So a text is what is left of it
with white space on either side, and two texts that differ in nothing but that are trimmed to the
same.

The pieces between separators are trimmed one by one in the formats of this library. There it makes
no difference whether the whole was trimmed before it was cut: only the first and the last piece
notice, and they are trimmed afterwards. This needs a separator that is not white space itself.

## Main definitions

* `AllBlank`: a text of white space.

## Main results

* `exists_eq_append_trim`, `trim_append_append`: what trimming takes away, and that it does.
* `not_mem_of_mem_splitOn`, `subset_of_mem_splitOn`: what the pieces are made of.
* `map_trim_splitOn_trim`: trimming before cutting makes no difference.
-/

namespace Telemetry.Text

variable {s t a b p : List Char} {c sep : Char}

/-- A text of white space. -/
def AllBlank (s : List Char) : Prop := ∀ c ∈ s, isBlank c = true

/-! ### The ends of a text -/

theorem trimStart_append (ha : AllBlank a) (s : List Char) : trimStart (a ++ s) = trimStart s :=
  List.dropWhile_append_of_pos ha

theorem trimEnd_append (hb : AllBlank b) (s : List Char) : trimEnd (s ++ b) = trimEnd s := by
  have hreverse : ∀ c ∈ b.reverse, isBlank c = true := fun c hc => hb c (List.mem_reverse.mp hc)
  rw [trimEnd, List.reverse_append, List.dropWhile_append_of_pos hreverse, trimEnd]

theorem trimStart_eq_nil_iff : trimStart s = [] ↔ AllBlank s := List.dropWhile_eq_nil_iff

theorem trim_append_left (ha : AllBlank a) (s : List Char) : trim (a ++ s) = trim s := by
  rw [trim, trimStart_append ha, trim]

theorem trim_append_right (hb : AllBlank b) (s : List Char) : trim (s ++ b) = trim s := by
  rw [trim, trim]
  by_cases hs : trimStart s = []
  · have hblank : AllBlank (s ++ b) := by
      intro c hc
      rcases List.mem_append.mp hc with hc | hc
      · exact trimStart_eq_nil_iff.mp hs c hc
      · exact hb c hc
    rw [trimStart_eq_nil_iff.mpr hblank, hs]
  · rw [trimStart, List.dropWhile_append, if_neg (by simpa [trimStart] using hs), ← trimStart,
      trimEnd_append hb]

/-- White space at the ends makes no difference. -/
theorem trim_append_append (ha : AllBlank a) (hb : AllBlank b) (s : List Char) :
    trim (a ++ (s ++ b)) = trim s := by
  rw [trim_append_left ha, trim_append_right hb]

theorem exists_eq_append_trimEnd (s : List Char) : ∃ b, s = trimEnd s ++ b ∧ AllBlank b := by
  refine ⟨(s.reverse.takeWhile isBlank).reverse, ?_, ?_⟩
  · rw [trimEnd, ← List.reverse_append, List.takeWhile_append_dropWhile, List.reverse_reverse]
  · intro c hc
    exact List.all_eq_true.mp List.all_takeWhile c (List.mem_reverse.mp hc)

/-- **A text is what is left of it**, with white space on either side. -/
theorem exists_eq_append_trim (s : List Char) :
    ∃ a b, s = a ++ (trim s ++ b) ∧ AllBlank a ∧ AllBlank b := by
  obtain ⟨b, hb, hblank⟩ := exists_eq_append_trimEnd (trimStart s)
  refine ⟨s.takeWhile isBlank, b, ?_, fun c hc => List.all_eq_true.mp List.all_takeWhile c hc,
    hblank⟩
  rw [trim, ← hb, trimStart, List.takeWhile_append_dropWhile]

@[simp]
theorem trim_trim (s : List Char) : trim (trim s) = trim s := by
  obtain ⟨a, b, hs, ha, hb⟩ := exists_eq_append_trim s
  calc trim (trim s) = trim (a ++ (trim s ++ b)) := (trim_append_append ha hb _).symm
    _ = trim s := by rw [← hs]

/-- What is left of a text was in it. -/
theorem trim_subset (s : List Char) : trim s ⊆ s := by
  obtain ⟨a, b, hs, -, -⟩ := exists_eq_append_trim s
  intro c hc
  rw [hs]
  exact List.mem_append_right a (List.mem_append_left b hc)

/-- Up to a character that is not white space nothing is cut off at the end. -/
theorem trimEnd_append_cons (hc : isBlank c = false) (s t : List Char) :
    trimEnd (s ++ c :: t) = s ++ c :: trimEnd t := by
  have hlast : ((c :: s.reverse).dropWhile isBlank).reverse = s ++ [c] := by
    rw [List.dropWhile_cons, hc, if_neg Bool.false_ne_true, List.reverse_cons, List.reverse_reverse]
  rw [trimEnd, List.reverse_append, List.reverse_cons, List.append_assoc,
    List.dropWhile_append, trimEnd]
  split
  · rename_i hempty
    rw [List.isEmpty_iff.mp hempty]
    simpa using hlast
  · simp

/-- Up to a character that is not white space nothing is cut off. -/
theorem trim_append_cons (hs : ∀ d ∈ s, isBlank d = false) (hc : isBlank c = false)
    (t : List Char) : trim (s ++ c :: t) = s ++ c :: trimEnd t := by
  have hstart : trimStart (s ++ c :: t) = s ++ c :: t := by
    cases s with
    | nil => rw [trimStart, List.nil_append, List.dropWhile_cons, hc, if_neg Bool.false_ne_true]
    | cons d s =>
      rw [trimStart, List.cons_append, List.dropWhile_cons, hs d List.mem_cons_self,
        if_neg Bool.false_ne_true]
  rw [trim, hstart, trimEnd_append_cons hc]

/-- Where the first character is not white space, only the end is cut off. -/
theorem trim_cons (hc : isBlank c = false) (s : List Char) : trim (c :: s) = trimEnd (c :: s) := by
  rw [trim, trimStart, List.dropWhile_cons, hc, if_neg Bool.false_ne_true]

theorem trimEnd_trimEnd (s : List Char) : trimEnd (trimEnd s) = trimEnd s := by
  obtain ⟨b, hs, hb⟩ := exists_eq_append_trimEnd s
  calc trimEnd (trimEnd s) = trimEnd (trimEnd s ++ b) := (trimEnd_append hb _).symm
    _ = trimEnd s := by rw [← hs]

/-- A text that has been trimmed has no white space at its end. -/
theorem trimEnd_of_trim (h : trim s = s) : trimEnd s = s := by
  rw [trim] at h
  rw [← h, trimEnd_trimEnd]

/-- Nothing is cut off the end of texts that are joined, if nothing is cut off theirs. -/
theorem trimEnd_intercalate {pieces : List (List Char)} (hsep : isBlank sep = false)
    (h : ∀ p ∈ pieces, trimEnd p = p) :
    trimEnd ([sep].intercalate pieces) = [sep].intercalate pieces := by
  induction pieces with
  | nil => rfl
  | cons p rest ih =>
    cases rest with
    | nil => simpa using h p List.mem_cons_self
    | cons q rest =>
      rw [List.intercalate_cons_cons, List.append_assoc, List.singleton_append,
        trimEnd_append_cons hsep, ih fun r hr => h r (List.mem_cons_of_mem p hr)]

/-! ### The pieces of a text -/

/-- The pieces are made of the characters of the text, and the separator is in none of them. -/
theorem not_mem_and_subset_of_mem_splitOn (h : p ∈ s.splitOn sep) : sep ∉ p ∧ p ⊆ s := by
  induction s generalizing p with
  | nil =>
    obtain rfl : p = [] := by simpa using h
    simp
  | cons c rest ih =>
    rw [List.splitOn_cons_eq_if_modifyHead] at h
    split at h
    · rcases List.mem_cons.mp h with rfl | h
      · simp
      · exact ⟨(ih h).1, List.subset_cons_of_subset c (ih h).2⟩
    · rename_i hc
      obtain ⟨q, more, hpieces⟩ := List.exists_cons_of_ne_nil (List.splitOn_ne_nil sep rest)
      rw [hpieces, List.modifyHead_cons, List.mem_cons] at h
      rcases h with rfl | h
      · have hq := ih (p := q) (by simp [hpieces])
        have hne : ¬ c = sep := fun h => hc (beq_iff_eq.mpr h)
        exact ⟨by simp [Ne.symm hne, hq.1], List.cons_subset_cons c hq.2⟩
      · have hp := ih (p := p) (by simp [hpieces, h])
        exact ⟨hp.1, List.subset_cons_of_subset c hp.2⟩

theorem not_mem_of_mem_splitOn (h : p ∈ s.splitOn sep) : sep ∉ p :=
  (not_mem_and_subset_of_mem_splitOn h).1

theorem subset_of_mem_splitOn (h : p ∈ s.splitOn sep) : p ⊆ s :=
  (not_mem_and_subset_of_mem_splitOn h).2

/-- A text after the first separator is a part of the last piece. -/
theorem exists_splitOn_append (ht : sep ∉ t) (s : List Char) :
    ∃ pieces last, s.splitOn sep = pieces ++ [last] ∧
      (s ++ t).splitOn sep = pieces ++ [last ++ t] := by
  induction s with
  | nil => exact ⟨[], [], by simp, by simp [List.splitOn_eq_singleton ht]⟩
  | cons c rest ih =>
    obtain ⟨pieces, last, hrest, happend⟩ := ih
    rw [List.cons_append, List.splitOn_cons_eq_if_modifyHead, List.splitOn_cons_eq_if_modifyHead,
      hrest, happend]
    split
    · exact ⟨[] :: pieces, last, rfl, rfl⟩
    · cases pieces with
      | nil => exact ⟨[], c :: last, rfl, rfl⟩
      | cons p pieces => exact ⟨(c :: p) :: pieces, last, rfl, rfl⟩

/-- A text before the first separator is a part of the first piece. -/
theorem exists_append_splitOn (ht : sep ∉ t) (s : List Char) :
    ∃ first pieces, s.splitOn sep = first :: pieces ∧
      (t ++ s).splitOn sep = (t ++ first) :: pieces := by
  obtain ⟨first, pieces, hpieces⟩ := List.exists_cons_of_ne_nil (List.splitOn_ne_nil sep s)
  refine ⟨first, pieces, hpieces, ?_⟩
  induction t with
  | nil => exact hpieces
  | cons c t ih =>
    obtain ⟨hne, ht⟩ := not_or.mp fun h => ht (List.mem_cons.mpr h)
    rw [List.cons_append, List.splitOn_cons_eq_if_modifyHead, ih ht,
      if_neg fun h => hne (beq_iff_eq.mp h).symm]
    rfl

theorem map_trim_splitOn_append_left (ha : AllBlank a) (hsep : isBlank sep = false)
    (s : List Char) : ((a ++ s).splitOn sep).map trim = (s.splitOn sep).map trim := by
  have hnot : sep ∉ a := fun h => Bool.false_ne_true (hsep.symm.trans (ha sep h))
  obtain ⟨first, pieces, hs, happend⟩ := exists_append_splitOn hnot s
  rw [hs, happend, List.map_cons, List.map_cons, trim_append_left ha]

theorem map_trim_splitOn_append_right (hb : AllBlank b) (hsep : isBlank sep = false)
    (s : List Char) : ((s ++ b).splitOn sep).map trim = (s.splitOn sep).map trim := by
  have hnot : sep ∉ b := fun h => Bool.false_ne_true (hsep.symm.trans (hb sep h))
  obtain ⟨pieces, last, hs, happend⟩ := exists_splitOn_append hnot s
  rw [hs, happend, List.map_append, List.map_append, List.map_singleton, List.map_singleton,
    trim_append_right hb]

/-- **Trimming before cutting makes no difference**, if every piece is trimmed afterwards. -/
theorem map_trim_splitOn_trim (hsep : isBlank sep = false) (s : List Char) :
    ((trim s).splitOn sep).map trim = (s.splitOn sep).map trim := by
  obtain ⟨a, b, hs, ha, hb⟩ := exists_eq_append_trim s
  calc ((trim s).splitOn sep).map trim
      = ((trim s ++ b).splitOn sep).map trim := (map_trim_splitOn_append_right hb hsep _).symm
    _ = ((a ++ (trim s ++ b)).splitOn sep).map trim :=
        (map_trim_splitOn_append_left ha hsep _).symm
    _ = (s.splitOn sep).map trim := by rw [← hs]

end Telemetry.Text
