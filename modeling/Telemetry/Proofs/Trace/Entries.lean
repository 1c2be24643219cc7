import Mathlib.Data.List.Basic
import Telemetry.Proofs.Text.Trimming
import Telemetry.Trace.Vendor

/-!
# Entries are read as they were written

The agent's member of the state is written by joining and read by cutting, twice over: entries with
semicolons between them, and in each of them a key and a value with a colon between. So an entry
survives if it has none of the punctuation in it that would be cut at. A colon in the value does no
harm, since it is the first one that ends the key.

What is read off a state was cut out of it, so it may be written again. And the members of other
vendors stay what they are, since the agent's member is never taken for one of theirs.

## Main definitions

* `Vendor.trimmed`: an entry without the white space around its key and its value.
* `Vendor.IsSeparable`: an entry that can be told from what stands around it.
* `Vendor.others`: the members of other vendors.

## Main results

* `Vendor.isSeparable_of_mem_entriesOf`: entries that were read may be written.
* `Vendor.entriesOf_stateWith`, `Vendor.otherMembers_stateWith`: what is read off a state that was
  written.
-/

namespace Telemetry.Vendor

open Text

variable {e : Entry} {entries : List Entry} {s b member : List Char} {state : String}
  {tracestate : Option String}

/-- The entry without the white space around its key and its value. -/
def trimmed (e : Entry) : Entry :=
  (String.ofList (trim e.1.toList), String.ofList (trim e.2.toList))

/-- The entry can be told from what stands around it. -/
structure IsSeparable (e : Entry) : Prop where
  key : ',' ∉ e.1.toList ∧ ';' ∉ e.1.toList ∧ ':' ∉ e.1.toList
  value : ',' ∉ e.2.toList ∧ ';' ∉ e.2.toList

/-! ### One entry -/

/-- The characters of an entry. -/
def entryChars (e : Entry) : List Char := e.1.toList ++ ':' :: e.2.toList

/-- What is read off the characters of an entry. -/
def readEntry (s : List Char) : Option Entry :=
  (splitOnce? ':' s).map fun p => (String.ofList (trim p.1), String.ofList (trim p.2))

theorem entriesOfValue_eq (value : List Char) :
    entriesOfValue value = (value.splitOn ';').filterMap readEntry := rfl

theorem readEntry_entryChars (h : IsSeparable e) : readEntry (entryChars e) = some (trimmed e) := by
  rw [readEntry, entryChars, splitOnce?_append h.key.2.2]
  rfl

/-- White space after an entry makes no difference. -/
theorem readEntry_append (hb : AllBlank b) (s : List Char) : readEntry (s ++ b) = readEntry s := by
  cases hs : splitOnce? ':' s with
  | none =>
    have hnot : ':' ∉ s ++ b := by
      rw [List.mem_append, not_or]
      exact ⟨splitOnce?_eq_none_iff.mp hs, fun h => absurd (hb _ h) (by decide)⟩
    rw [readEntry, readEntry, hs, splitOnce?_eq_none_iff.mpr hnot]
  | some p =>
    obtain ⟨rfl, hkey⟩ := eq_of_splitOnce? hs
    rw [readEntry, readEntry, List.append_assoc, List.cons_append, splitOnce?_append hkey,
      splitOnce?_append hkey, Option.map_some, Option.map_some, trim_append_right hb]

theorem isSeparable_of_readEntry (h : readEntry s = some e) (hcomma : ',' ∉ s)
    (hsemicolon : ';' ∉ s) : IsSeparable e ∧ trimmed e = e := by
  obtain ⟨⟨key, value⟩, hsplit, rfl⟩ := Option.map_eq_some_iff.mp h
  obtain ⟨rfl, hcolon⟩ := eq_of_splitOnce? hsplit
  simp only [List.mem_append, List.mem_cons, not_or] at hcomma hsemicolon
  refine ⟨⟨⟨?_, ?_, ?_⟩, ?_, ?_⟩, by simp [trimmed]⟩ <;> rw [String.toList_ofList]
  · exact fun h => hcomma.1 (trim_subset key h)
  · exact fun h => hsemicolon.1 (trim_subset key h)
  · exact fun h => hcolon (trim_subset key h)
  · exact fun h => hcomma.2.2 (trim_subset value h)
  · exact fun h => hsemicolon.2.2 (trim_subset value h)

/-! ### The agent's member -/

theorem toList_render (entries : List Entry) :
    (render entries).toList = [';'].intercalate (entries.map entryChars) := by
  rw [render, String.toList_intercalate, List.map_map]
  congr 2
  funext e
  simp [entryChars]

/-- A character is in what was joined only if it is in the separator or in a piece. -/
theorem not_mem_intercalate {c : Char} {sep : List Char} {pieces : List (List Char)}
    (hsep : c ∉ sep) (h : ∀ p ∈ pieces, c ∉ p) : c ∉ sep.intercalate pieces := by
  induction pieces with
  | nil => simp
  | cons p rest ih =>
    cases rest with
    | nil => simpa using h
    | cons q rest =>
      have hrest := ih fun r hr => h r (List.mem_cons_of_mem p hr)
      rw [List.intercalate_cons_cons, List.mem_append, List.mem_append]
      rintro ((hp | hs) | hr)
      · exact h p List.mem_cons_self hp
      · exact hsep hs
      · exact hrest hr

/-- **The value of the member** is read as it was written. -/
theorem entriesOfValue_render (h : ∀ e ∈ entries, IsSeparable e) :
    entriesOfValue (render entries).toList = entries.map trimmed := by
  cases entries with
  | nil => rfl
  | cons e rest =>
    have hsplit : ((render (e :: rest)).toList).splitOn ';' = (e :: rest).map entryChars := by
      rw [toList_render]
      refine List.splitOn_intercalate ';' (fun s hs => ?_) (by simp)
      obtain ⟨e', he', rfl⟩ := List.mem_map.mp hs
      simp [entryChars, (h e' he').key.2.1, (h e' he').value.2]
    rw [entriesOfValue_eq, hsplit, List.filterMap_map]
    calc (e :: rest).filterMap (readEntry ∘ entryChars)
        = (e :: rest).filterMap (some ∘ trimmed) :=
          List.filterMap_congr fun e' he' => readEntry_entryChars (h e' he')
      _ = (e :: rest).map trimmed := by rw [List.filterMap_eq_map]

/-- White space after the member makes no difference. -/
theorem entriesOfValue_append (hb : AllBlank b) (s : List Char) :
    entriesOfValue (s ++ b) = entriesOfValue s := by
  have hnot : ';' ∉ b := fun h => absurd (hb _ h) (by decide)
  obtain ⟨pieces, last, hs, happend⟩ := exists_splitOn_append hnot s
  rw [entriesOfValue_eq, entriesOfValue_eq, hs, happend, List.filterMap_append,
    List.filterMap_append, List.filterMap_cons, List.filterMap_cons, readEntry_append hb]

theorem comma_not_mem_render (h : ∀ e ∈ entries, IsSeparable e) :
    ',' ∉ (render entries).toList := by
  rw [toList_render]
  refine not_mem_intercalate (by decide) fun piece hpiece => ?_
  obtain ⟨e, he, rfl⟩ := List.mem_map.mp hpiece
  simp [entryChars, (h e he).key.1, (h e he).value.1]

/-- The characters of the agent's member. -/
def memberChars (entries : List Entry) : List Char := ['e', 's', '='] ++ (render entries).toList

theorem trim_memberChars (entries : List Entry) :
    trim (memberChars entries) = ['e', 's'] ++ '=' :: trimEnd (render entries).toList := by
  have hkey : ∀ c ∈ ['e', 's'], isBlank c = false := by
    rw [List.forall_mem_cons, List.forall_mem_singleton]
    decide
  exact trim_append_cons hkey (by decide) _

theorem keyOf_memberChars (entries : List Entry) :
    keyOf (trim (memberChars entries)) = memberKey := by
  have hkey : '=' ∉ ['e', 's'] := by decide
  rw [trim_memberChars, keyOf, splitOnce?_append hkey]
  rfl

/-- **The member** is read as it was written. -/
theorem entriesOfMember_memberChars (h : ∀ e ∈ entries, IsSeparable e) :
    entriesOfMember (memberChars entries) = entries.map trimmed := by
  have hkey : '=' ∉ ['e', 's'] := by decide
  have htrim : trim ['e', 's'] = memberKey := by decide
  obtain ⟨b, hb, hblank⟩ := exists_eq_append_trimEnd (render entries).toList
  simp only [entriesOfMember, trim_memberChars, splitOnce?_append hkey, htrim, if_true]
  rw [← entriesOfValue_append hblank, ← hb, entriesOfValue_render h]

/-! ### The state -/

/-- Members are read without the white space around them. -/
theorem entriesOfMember_trim (member : List Char) :
    entriesOfMember (trim member) = entriesOfMember member := by
  rw [entriesOfMember, trim_trim, entriesOfMember]

theorem entriesOf_eq (state : String) :
    entriesOf state = ((state.toList.splitOn ',').map trim).flatMap entriesOfMember := by
  rw [entriesOf, List.flatMap_map]
  exact List.flatMap_congr fun member _ => (entriesOfMember_trim member).symm

/-- White space around the state makes no difference. -/
theorem entriesOf_trim (state : String) :
    entriesOf (String.ofList (trim state.toList)) = entriesOf state := by
  rw [entriesOf_eq, entriesOf_eq, String.toList_ofList, map_trim_splitOn_trim (by decide)]

/-- **Entries that were read may be written**, and there is no white space around them. -/
theorem isSeparable_of_mem_entriesOf (h : e ∈ entriesOf state) :
    IsSeparable e ∧ trimmed e = e := by
  obtain ⟨member, hmember, he⟩ := List.mem_flatMap.mp h
  have hcomma : ',' ∉ trim member := fun h => not_mem_of_mem_splitOn hmember (trim_subset member h)
  rw [entriesOfMember] at he
  split at he
  · rename_i key value hsplit
    split at he
    · rw [(eq_of_splitOnce? hsplit).1] at hcomma
      obtain ⟨piece, hpiece, hread⟩ := List.mem_filterMap.mp he
      refine isSeparable_of_readEntry hread (fun h => hcomma ?_) (not_mem_of_mem_splitOn hpiece)
      simp [subset_of_mem_splitOn hpiece h]
    · cases he
  · cases he

/-- The members of other vendors have no comma and no white space around them, and none of them is
the agent's. -/
theorem of_mem_otherMembers {member : String} (h : member ∈ otherMembers state) :
    ',' ∉ member.toList ∧ trim member.toList = member.toList ∧ member.toList ≠ [] ∧
      keyOf member.toList ≠ memberKey := by
  rw [otherMembers, List.mem_map] at h
  obtain ⟨chars, hchars, rfl⟩ := h
  rw [List.mem_filter, List.mem_map] at hchars
  obtain ⟨⟨piece, hpiece, rfl⟩, hkeep⟩ := hchars
  rw [String.toList_ofList, trim_trim]
  refine ⟨fun h => not_mem_of_mem_splitOn hpiece (trim_subset piece h), rfl, ?_, ?_⟩
  · rintro hnil
    simp [hnil] at hkeep
  · simpa using (Bool.and_eq_true_iff.mp hkeep).2

/-- There are no entries in the members of other vendors. -/
theorem entriesOfMember_of_keyOf_ne (htrim : trim member = member) (h : keyOf member ≠ memberKey) :
    entriesOfMember member = [] := by
  rw [entriesOfMember, htrim]
  split
  · rename_i key value hsplit
    rw [keyOf, hsplit] at h
    exact if_neg h
  · rfl

/-- The members of other vendors in a state that may be absent. -/
def others (tracestate : Option String) : List String := (tracestate.map otherMembers).getD []

theorem of_mem_others {member : String} (h : member ∈ others tracestate) :
    ',' ∉ member.toList ∧ trim member.toList = member.toList ∧ member.toList ≠ [] ∧
      keyOf member.toList ≠ memberKey := by
  cases tracestate with
  | none => simp [others] at h
  | some state => exact of_mem_otherMembers h

theorem toList_stateWith (tracestate : Option String) (entries : List Entry) :
    (stateWith tracestate entries).toList =
      [','].intercalate (memberChars entries :: (others tracestate).map String.toList) := by
  rw [stateWith, String.toList_intercalate, List.map_cons, String.toList_append]
  rfl

/-- The members of a state that was written. -/
theorem splitOn_stateWith (h : ∀ e ∈ entries, IsSeparable e) :
    (stateWith tracestate entries).toList.splitOn ',' =
      memberChars entries :: (others tracestate).map String.toList := by
  rw [toList_stateWith]
  refine List.splitOn_intercalate ',' (fun piece hpiece => ?_) (by simp)
  rcases List.mem_cons.mp hpiece with rfl | hpiece
  · simp [memberChars, comma_not_mem_render h]
  · obtain ⟨member, hmember, rfl⟩ := List.mem_map.mp hpiece
    exact (of_mem_others hmember).1

/-- **The entries of a state** that was written are those it was written with. -/
theorem entriesOf_stateWith (h : ∀ e ∈ entries, IsSeparable e) :
    entriesOf (stateWith tracestate entries) = entries.map trimmed := by
  have hothers : ((others tracestate).map String.toList).flatMap entriesOfMember = [] := by
    rw [List.flatMap_eq_nil_iff]
    intro piece hpiece
    obtain ⟨member, hmember, rfl⟩ := List.mem_map.mp hpiece
    obtain ⟨-, htrim, -, hkey⟩ := of_mem_others hmember
    exact entriesOfMember_of_keyOf_ne htrim hkey
  rw [entriesOf, splitOn_stateWith h, List.flatMap_cons, entriesOfMember_memberChars h, hothers,
    List.append_nil]

/-- **The members of other vendors** are still there. -/
theorem otherMembers_stateWith (h : ∀ e ∈ entries, IsSeparable e) :
    otherMembers (stateWith tracestate entries) = others tracestate := by
  have htrim : ((others tracestate).map String.toList).map trim =
      (others tracestate).map String.toList := by
    rw [List.map_map]
    exact List.map_congr_left fun member hmember => (of_mem_others hmember).2.1
  have hkeep : ∀ piece ∈ (others tracestate).map String.toList,
      (!piece.isEmpty && decide (keyOf piece ≠ memberKey)) = true := by
    intro piece hpiece
    obtain ⟨member, hmember, rfl⟩ := List.mem_map.mp hpiece
    obtain ⟨-, -, hsome, hkey⟩ := of_mem_others hmember
    simp [hsome, hkey]
  rw [otherMembers, splitOn_stateWith h, List.map_cons,
    List.filter_cons_of_neg (by simp [keyOf_memberChars]), htrim, List.filter_eq_self.mpr hkeep,
    List.map_map]
  simp [Function.comp_def]

end Telemetry.Vendor
