import Mathlib.Algebra.Ring.Nat
import Mathlib.Data.List.Induction
import Telemetry.Transaction.DroppedStats

/-!
# A table with room for so many keys

Dropped spans are counted in a table under their destination and their outcome, which is their key.
The table is filled one drop at a time. A drop whose key is there is added to the entry; a drop with
a new key makes an entry, until there is no more room. From then on the keys stay as they are, while
their entries go on being added to.

So the table can be told from the list of all drops: which keys it has, and what stands under each.
An entry has missed nothing, since a key that is not in the table although there is room has not
occurred yet.

A drop has the same data as an entry, so one type serves for both.

## Main definitions

* `DroppedSpanStat.key`.
* `DroppedStats.add`, `DroppedStats.ofDrops`: the table after one more drop, and after a list of
  them.
* `DroppedStats.countOf`, `DroppedStats.sumOf`: how many spans were dropped under a key, and how
  long they took.

## Main results

* `DroppedStats.keys_ofDrops`: the first keys, in the order in which they occurred.
* `DroppedStats.entry_ofDrops`: an entry has the totals of its key.
* `DroppedStats.sum_count_ofDrops_le`: no drop is counted twice.
-/

namespace Telemetry

/-- What a dropped span is counted under. -/
def DroppedSpanStat.key (s : DroppedSpanStat) : String × Outcome := (s.resource, s.outcome)

namespace DroppedStats

/-! ### Drops and tables -/

/-- The keys of a table, or of drops. -/
def keys (stats : List DroppedSpanStat) : List (String × Outcome) := stats.map (·.key)

/-- The table with one more drop. -/
def add (stats : DroppedStats) (d : DroppedSpanStat) : DroppedStats :=
  stats.track d.resource d.outcome d.count d.sum

/-- The table for a list of drops, oldest first. -/
def ofDrops (D : List DroppedSpanStat) : DroppedStats := D.foldl add []

/-- How many spans were dropped under a key. -/
def countOf (D : List DroppedSpanStat) (k : String × Outcome) : Nat :=
  ((D.filter (·.key = k)).map (·.count)).sum

/-- How long the spans that were dropped under a key took together. -/
def sumOf (D : List DroppedSpanStat) (k : String × Outcome) : Duration :=
  ((D.filter (·.key = k)).map (·.sum)).sum

variable {stats : DroppedStats} {D : List DroppedSpanStat} {d e : DroppedSpanStat}
  {k : String × Outcome}

@[simp] theorem keys_append (D D' : List DroppedSpanStat) : keys (D ++ D') = keys D ++ keys D' :=
  List.map_append

@[simp] theorem keys_singleton (d : DroppedSpanStat) : keys [d] = [d.key] := rfl

theorem ofDrops_concat (D : List DroppedSpanStat) (d : DroppedSpanStat) :
    ofDrops (D ++ [d]) = (ofDrops D).add d := by
  simp [ofDrops]

theorem countOf_concat (D : List DroppedSpanStat) (d : DroppedSpanStat) (k : String × Outcome) :
    countOf (D ++ [d]) k = countOf D k + if d.key = k then d.count else 0 := by
  by_cases hk : d.key = k <;> simp [countOf, hk]

theorem sumOf_concat (D : List DroppedSpanStat) (d : DroppedSpanStat) (k : String × Outcome) :
    sumOf (D ++ [d]) k = sumOf D k + if d.key = k then d.sum else 0 := by
  by_cases hk : d.key = k <;> simp [sumOf, hk]

theorem filter_key_eq_nil (h : k ∉ keys D) : D.filter (·.key = k) = [] :=
  List.filter_eq_nil_iff.mpr fun d hd hk =>
    h (List.mem_map.mpr ⟨d, hd, of_decide_eq_true hk⟩)

theorem countOf_eq_zero (h : k ∉ keys D) : countOf D k = 0 := by
  simp [countOf, filter_key_eq_nil h]

theorem sumOf_eq_zero (h : k ∉ keys D) : sumOf D k = 0 := by
  simp [sumOf, filter_key_eq_nil h]

/-! ### One more drop -/

theorem isFor_eq_decide (e d : DroppedSpanStat) :
    isFor d.resource d.outcome e = decide (e.key = d.key) := by
  simp [isFor, DroppedSpanStat.key, Prod.ext_iff]

/-- An entry to which a drop with its key is added. -/
def plus (e d : DroppedSpanStat) : DroppedSpanStat :=
  { e with count := e.count + d.count, sum := e.sum + d.sum }

@[simp] theorem key_plus (e d : DroppedSpanStat) : (plus e d).key = e.key := rfl

@[simp] theorem count_plus (e d : DroppedSpanStat) : (plus e d).count = e.count + d.count := rfl

/-- The table in which the entry of a drop is added to. -/
def addTo (d : DroppedSpanStat) (stats : DroppedStats) : DroppedStats :=
  stats.map fun e => if e.key = d.key then plus e d else e

/-- What a drop comes to: its key is there, or there is room for it, or it is not kept. -/
theorem add_eq (stats : DroppedStats) (d : DroppedSpanStat) :
    stats.add d =
      if d.key ∈ keys stats then addTo d stats
      else if stats.length < capacity then stats ++ [d]
      else stats := by
  have hmem : stats.any (isFor d.resource d.outcome) = true ↔ d.key ∈ keys stats := by
    simp only [List.any_eq_true, isFor_eq_decide, decide_eq_true_eq, keys, List.mem_map]
  simp only [add, track, hmem, isFor_eq_decide, decide_eq_true_eq]
  rfl

@[simp] theorem keys_addTo (d : DroppedSpanStat) (stats : DroppedStats) :
    keys (addTo d stats) = keys stats := by
  rw [keys, addTo, List.map_map]
  refine List.map_congr_left fun e _ => ?_
  by_cases he : e.key = d.key <;> simp [he]

theorem keys_add (stats : DroppedStats) (d : DroppedSpanStat) :
    keys (stats.add d) =
      if d.key ∈ keys stats ∨ capacity ≤ stats.length then keys stats
      else keys stats ++ [d.key] := by
  rw [add_eq]
  by_cases hk : d.key ∈ keys stats
  · simp [hk]
  · by_cases hroom : stats.length < capacity
    · simp [hk, hroom, not_le.mpr hroom]
    · simp [hk, hroom, not_lt.mp hroom]

/-! ### Keys -/

/-- A key that occurs again makes no difference to the order in which keys occurred first. -/
theorem eraseDups_concat (l : List (String × Outcome)) (k : String × Outcome) :
    (l ++ [k]).eraseDups = if k ∈ l then l.eraseDups else l.eraseDups ++ [k] := by
  rw [List.eraseDups_append]
  by_cases hk : k ∈ l <;> simp [List.removeAll, hk, List.eraseDups_cons]

/-- **The table has the first keys**, as many as there is room for, in the order in which they
occurred. -/
theorem keys_ofDrops (D : List DroppedSpanStat) :
    keys (ofDrops D) = ((keys D).eraseDups).take capacity := by
  induction D using List.reverseRecOn with
  | nil => rfl
  | append_singleton D d ih =>
    have hlength : (ofDrops D).length = min capacity (keys D).eraseDups.length := by
      have hkeys := congrArg List.length ih
      rwa [keys, List.length_map, List.length_take] at hkeys
    rw [ofDrops_concat, keys_add, ih, keys_append, keys_singleton, eraseDups_concat]
    by_cases hk : d.key ∈ keys D
    · rw [if_pos hk]
      refine ite_eq_left_iff.mpr fun hnew => ?_
      -- the key is among the first ones, unless there are more than there is room for
      obtain ⟨hnot, hroom⟩ := not_or.mp hnew
      have hall : (keys D).eraseDups.take capacity = (keys D).eraseDups :=
        List.take_of_length_le (by omega)
      rw [hall] at hnot
      exact absurd (List.mem_eraseDups.mpr hk) hnot
    · rw [if_neg hk]
      have hnot : d.key ∉ (keys D).eraseDups.take capacity :=
        fun hmem => hk (List.mem_eraseDups.mp (List.mem_of_mem_take hmem))
      by_cases hfull : capacity ≤ (keys D).eraseDups.length
      · rw [if_pos (.inr (by omega)), List.take_append_of_le_length hfull]
      · rw [if_neg (not_or.mpr ⟨hnot, by omega⟩), List.take_of_length_le (by omega),
          List.take_of_length_le (by simp; omega)]

/-- No key has two entries. -/
theorem nodup_keys_ofDrops (D : List DroppedSpanStat) : (keys (ofDrops D)).Nodup := by
  induction D using List.reverseRecOn with
  | nil => exact List.nodup_nil
  | append_singleton D d ih =>
    rw [ofDrops_concat, keys_add]
    split
    · exact ih
    · rename_i hnew
      refine List.nodup_append.mpr ⟨ih, List.pairwise_singleton _ _, fun k hk l hl => ?_⟩
      rintro rfl
      exact hnew (.inl (List.mem_singleton.mp hl ▸ hk))

/-- A key that is not in a table with room for it has not occurred. -/
theorem not_mem_keys_of_room (hroom : (ofDrops D).length < capacity)
    (hk : k ∉ keys (ofDrops D)) : k ∉ keys D := by
  have hkeys := keys_ofDrops D
  have hlength := congrArg List.length hkeys
  rw [keys, List.length_map, List.length_take] at hlength
  rw [hkeys, List.take_of_length_le (by omega)] at hk
  exact fun hmem => hk (List.mem_eraseDups.mpr hmem)

/-! ### Entries -/

/-- **An entry has the totals of its key**, whether the table is full or not. -/
theorem entry_ofDrops (D : List DroppedSpanStat) :
    ∀ e ∈ ofDrops D, e.count = countOf D e.key ∧ e.sum = sumOf D e.key := by
  induction D using List.reverseRecOn with
  | nil => simp [ofDrops]
  | append_singleton D d ih =>
    have hother : ∀ e ∈ ofDrops D, d.key ≠ e.key →
        e.count = countOf (D ++ [d]) e.key ∧ e.sum = sumOf (D ++ [d]) e.key := by
      intro e he hne
      rw [countOf_concat, sumOf_concat, if_neg hne, if_neg hne]
      exact ih e he
    intro e he
    rw [ofDrops_concat, add_eq] at he
    split at he
    · obtain ⟨e₀, he₀, rfl⟩ := List.mem_map.mp he
      by_cases hk : e₀.key = d.key
      · obtain ⟨hcount, hsum⟩ := ih e₀ he₀
        rw [if_pos hk, key_plus, countOf_concat, sumOf_concat, if_pos hk.symm, if_pos hk.symm,
          ← hcount, ← hsum]
        exact ⟨rfl, rfl⟩
      · rw [if_neg hk]
        exact hother e₀ he₀ (Ne.symm hk)
    · rename_i hnew
      have hne : ∀ e ∈ ofDrops D, d.key ≠ e.key :=
        fun e he hk => hnew (hk ▸ List.mem_map_of_mem he)
      split at he
      · rename_i hroom
        rcases List.mem_append.mp he with he | he
        · exact hother e he (hne e he)
        · obtain rfl := List.mem_singleton.mp he
          have hfirst := not_mem_keys_of_room hroom hnew
          rw [countOf_concat, sumOf_concat, countOf_eq_zero hfirst, sumOf_eq_zero hfirst]
          simp
      · exact hother e he (hne e he)

/-! ### Counts -/

theorem sum_count_addTo_le (hnodup : (keys stats).Nodup) (d : DroppedSpanStat) :
    ((addTo d stats).map (·.count)).sum ≤ (stats.map (·.count)).sum + d.count := by
  induction stats with
  | nil => simp [addTo]
  | cons e rest ih =>
    obtain ⟨hnot, hrest⟩ : e.key ∉ keys rest ∧ (keys rest).Nodup := List.nodup_cons.mp hnodup
    have hcons : addTo d (e :: rest) =
        (if e.key = d.key then plus e d else e) :: addTo d rest := rfl
    rw [hcons, List.map_cons, List.map_cons, List.sum_cons, List.sum_cons]
    by_cases hk : e.key = d.key
    · -- no other entry is added to
      have hsame : addTo d rest = rest := by
        refine (List.map_congr_left fun e' he' => if_neg fun hk' => hnot ?_).trans (List.map_id _)
        exact List.mem_map.mpr ⟨e', he', hk'.trans hk.symm⟩
      rw [if_pos hk, hsame, count_plus]
      omega
    · have ih := ih hrest
      rw [if_neg hk]
      omega

/-- **No drop is counted twice.** -/
theorem sum_count_ofDrops_le (D : List DroppedSpanStat) :
    ((ofDrops D).map (·.count)).sum ≤ (D.map (·.count)).sum := by
  induction D using List.reverseRecOn with
  | nil => exact le_rfl
  | append_singleton D d ih =>
    have hadded := sum_count_addTo_le (nodup_keys_ofDrops D) d
    rw [ofDrops_concat, add_eq, List.map_append, List.sum_append]
    simp only [List.map_singleton, List.sum_singleton]
    split
    · omega
    · split
      · rw [List.map_append, List.sum_append]
        simp only [List.map_singleton, List.sum_singleton]
        omega
      · omega

end DroppedStats

end Telemetry
