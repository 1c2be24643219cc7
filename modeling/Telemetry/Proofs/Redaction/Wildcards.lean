import Telemetry.Proofs.Text.Pieces
import Telemetry.Proofs.Text.Trimming
import Telemetry.Redaction.FieldMatcher

/-!
# Greedy matching of wildcard patterns

A pattern is matched by looking for the texts between its stars from left to right, each at its
first occurrence, and never going back. This finds a match whenever there is one.

The reason is an exchange. What follows the first occurrence of a text has in it, at its end, what
follows any other occurrence. And a pattern that begins with a star fits every text that ends with
one it fits: the star takes what is too much. So nothing is lost by taking the first occurrence, and
since what is left begins where the occurrence ends, the texts that were found never overlap.

## Main results

* `exists_afterText?`: the first occurrence leaves the longest rest.
* `Glob.Fits.of_suffix`: the exchange.
* `Glob.matchPieces_iff`, `Glob.fits_iff`: greedy matching decides whether a pattern fits.
* `FieldMatcher.globs`: which names a list of patterns matches.
-/

namespace Telemetry

namespace Text

variable {piece s u v : List Char}

/-! ### What follows the first occurrence -/

theorem append_suffix_of_afterText? (h : afterText? piece s = some u) : piece ++ u <:+ s := by
  induction s with
  | nil =>
    rw [afterText?] at h
    split at h
    · obtain rfl : [] = u := Option.some.inj h
      simp_all
    · exact absurd h (by simp)
  | cons c rest ih =>
    rw [afterText?] at h
    split at h
    · rename_i hbegins
      obtain ⟨t, ht⟩ := beginsWith_iff.mp hbegins
      obtain rfl : t = u := by simpa [← ht] using h
      rw [ht]
    · exact (ih h).trans (List.suffix_cons c rest)

/-- The first occurrence of a text leaves the longest rest: it ends with what follows any other. -/
theorem exists_afterText? (h : piece ++ v <:+ s) : ∃ u, afterText? piece s = some u ∧ v <:+ u := by
  induction s with
  | nil =>
    obtain ⟨rfl, rfl⟩ := List.append_eq_nil_iff.mp (List.suffix_nil.mp h)
    exact ⟨[], rfl, List.suffix_rfl⟩
  | cons c rest ih =>
    by_cases hbegins : beginsWith piece (c :: rest) = true
    · obtain ⟨u, hu⟩ := beginsWith_iff.mp hbegins
      have hafter : afterText? piece (c :: rest) = some u := by
        rw [afterText?, if_pos hbegins, ← hu, List.drop_left]
      refine ⟨u, hafter, ?_⟩
      have hv : v <:+ c :: rest := (List.suffix_append piece v).trans h
      have hlength : v.length ≤ u.length := by
        have hle := h.length_le
        rw [← hu, List.length_append, List.length_append] at hle
        omega
      exact List.suffix_of_suffix_length_le hv (hu ▸ List.suffix_append piece u) hlength
    · rw [afterText?, if_neg hbegins]
      refine ih ((List.suffix_cons_iff.mp h).resolve_left fun heq => hbegins ?_)
      exact beginsWith_iff.mpr ⟨v, heq⟩

end Text

namespace Glob

open Text

variable {p q pattern text u v : List Char}

/-! ### Fitting, piece by piece -/

theorem fits_nil_iff : Fits [] text ↔ text = [] := by
  constructor
  · rintro ⟨⟩
    rfl
  · rintro rfl
    exact .nil

/-- A text without stars stands for itself. -/
theorem fits_append_iff (hp : '*' ∉ p) : Fits (p ++ q) text ↔ ∃ t, text = p ++ t ∧ Fits q t := by
  induction p generalizing text with
  | nil => simp
  | cons c p ih =>
    obtain ⟨hc, hp⟩ := not_or.mp (mt List.mem_cons.mpr hp)
    constructor
    · intro h
      cases h with
      | char _ h =>
        obtain ⟨t, rfl, ht⟩ := (ih hp).mp h
        exact ⟨t, rfl, ht⟩
      | star => exact absurd rfl hc
    · rintro ⟨t, rfl, ht⟩
      exact .char (Ne.symm hc) ((ih hp).mpr ⟨t, rfl, ht⟩)

theorem fits_iff_eq (hp : '*' ∉ p) : Fits p text ↔ text = p := by
  rw [← List.append_nil p, fits_append_iff hp]
  simp [fits_nil_iff]

/-- A star stands for any text. -/
theorem fits_star_iff : Fits ('*' :: q) text ↔ ∃ t, t <:+ text ∧ Fits q t := by
  constructor
  · intro h
    cases h with
    | char hc => exact absurd rfl hc
    | star run h => exact ⟨_, List.suffix_append run _, h⟩
  · rintro ⟨t, ⟨run, rfl⟩, ht⟩
    exact .star run ht

/-- What stands before a text that is fitted goes to the star. -/
theorem Fits.of_suffix (h : Fits ('*' :: q) u) (huv : u <:+ v) : Fits ('*' :: q) v := by
  obtain ⟨t, ht, hq⟩ := fits_star_iff.mp h
  exact fits_star_iff.mpr ⟨t, ht.trans huv, hq⟩

/-! ### Greedy matching -/

/-- **Taking every piece at its first occurrence misses no match.** -/
theorem matchPieces_iff {pieces : List (List Char)} (hne : pieces ≠ [])
    (hstar : ∀ piece ∈ pieces, '*' ∉ piece) :
    matchPieces pieces text = true ↔ Fits ('*' :: ['*'].intercalate pieces) text := by
  induction pieces generalizing text with
  | nil => exact absurd rfl hne
  | cons piece rest ih =>
    have hpiece : '*' ∉ piece := hstar piece List.mem_cons_self
    cases rest with
    | nil =>
      rw [matchPieces, List.isSuffixOf_iff_suffix, List.intercalate_singleton, fits_star_iff]
      simp [fits_iff_eq hpiece]
    | cons next rest =>
      have hothers : ∀ p ∈ next :: rest, '*' ∉ p := fun p hp =>
        hstar p (List.mem_cons_of_mem piece hp)
      have ih {text : List Char} := @ih text (by simp) hothers
      have hpattern : ['*'].intercalate (piece :: next :: rest) =
          piece ++ '*' :: ['*'].intercalate (next :: rest) := by
        simp [List.intercalate_cons_cons]
      rw [hpattern, fits_star_iff]
      constructor
      · intro h
        cases hafter : afterText? piece text with
        | none => simp [matchPieces, hafter] at h
        | some u =>
          have hrest : matchPieces (next :: rest) u = true := by simpa [matchPieces, hafter] using h
          exact ⟨piece ++ u, append_suffix_of_afterText? hafter,
            (fits_append_iff hpiece).mpr ⟨u, rfl, ih.mp hrest⟩⟩
      · rintro ⟨t, hsuffix, ht⟩
        obtain ⟨v, rfl, hv⟩ := (fits_append_iff hpiece).mp ht
        -- the match may use a later occurrence of the piece; the first one does as well
        obtain ⟨u, hafter, huv⟩ := exists_afterText? hsuffix
        simpa [matchPieces, hafter] using ih.mpr (hv.of_suffix huv)

/-- **Greedy matching decides whether a pattern fits.** -/
theorem fits_iff : fits pattern text = true ↔ Fits pattern text := by
  have hjoin : ['*'].intercalate (pattern.splitOn '*') = pattern := List.intercalate_splitOn '*'
  have hstar : ∀ piece ∈ pattern.splitOn '*', '*' ∉ piece := fun _ => not_mem_of_mem_splitOn
  obtain ⟨first, rest, hpieces⟩ := List.exists_cons_of_ne_nil (List.splitOn_ne_nil '*' pattern)
  rw [hpieces] at hjoin hstar
  have hfirst : '*' ∉ first := hstar first List.mem_cons_self
  have hrest : ∀ piece ∈ rest, '*' ∉ piece := fun p hp => hstar p (List.mem_cons_of_mem first hp)
  have hfits : fits pattern text = true ↔
      ∃ t, text = first ++ t ∧ matchPieces rest t = true := by
    rw [fits, hpieces]
    simp only [Bool.and_eq_true, beginsWith_iff]
    constructor
    · rintro ⟨⟨t, rfl⟩, h⟩
      exact ⟨t, rfl, by simpa using h⟩
    · rintro ⟨t, rfl, h⟩
      exact ⟨List.prefix_append first t, by simpa using h⟩
  rw [hfits, ← hjoin]
  cases rest with
  | nil => simp [fits_iff_eq hfirst, matchPieces]
  | cons next rest =>
    have hpattern : ['*'].intercalate (first :: next :: rest) =
        first ++ '*' :: ['*'].intercalate (next :: rest) := by
      simp [List.intercalate_cons_cons]
    rw [hpattern, fits_append_iff hfirst]
    exact exists_congr fun t => and_congr_right fun _ => matchPieces_iff (by simp) hrest

end Glob

/-! ### Names -/

namespace FieldMatcher

open Text

/-- A name is matched by the patterns that are not blank, all in their normal forms. -/
theorem hits_ofPatterns_iff {patterns : List String} {field : List Char} :
    (ofPatterns patterns).hits field = true ↔ ∃ p ∈ patterns,
      normalize p.toList ≠ [] ∧ Glob.Fits (normalize p.toList) (normalize field) := by
  simp only [hits, ofPatterns, List.any_eq_true, List.mem_filter, List.mem_map, Glob.fits_iff,
    Bool.not_eq_true', List.isEmpty_eq_false_iff]
  constructor
  · rintro ⟨_, ⟨⟨p, hp, rfl⟩, hne⟩, hfits⟩
    exact ⟨p, hp, hne, hfits⟩
  · rintro ⟨p, hp, hne, hfits⟩
    exact ⟨_, ⟨⟨p, hp, rfl⟩, hne⟩, hfits⟩

/-- **Wildcards are globs**: a pattern is matched exactly by the texts that it yields when every
star is replaced by some text. A name is matched by a list of patterns if one of them, trimmed and
in lower case, is not empty and yields the name, trimmed and in lower case as well. -/
theorem globs :
    (∀ pattern text : List Char, Glob.fits pattern text = true ↔ Glob.Fits pattern text) ∧
    ∀ (patterns : List String) (field : List Char),
      (ofPatterns patterns).hits field = true ↔ ∃ p ∈ patterns,
        lowercase (trim p.toList) ≠ [] ∧
          Glob.Fits (lowercase (trim p.toList)) (lowercase (trim field)) :=
  ⟨fun _ _ => Glob.fits_iff, fun _ _ => hits_ofPatterns_iff⟩

example : (ofPatterns [" ", "\tX-*Key "]).hits "  x-API-kEY\n".toList = true ∧
    (ofPatterns [" ", "\tX-*Key "]).hits "x-keys".toList = false ∧
    (ofPatterns [" "]).hits " ".toList = false := by
  decide +kernel

end FieldMatcher

end Telemetry
