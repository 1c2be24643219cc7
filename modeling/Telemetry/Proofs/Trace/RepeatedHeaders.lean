import Telemetry.Proofs.Trace.Editing

/-!
# State headers that are repeated

A message may carry several state headers. Their values are joined by commas and read as one state.
A comma is also what stands between the members of a state, and members are read one by one, without
the white space around them. So it makes no difference whether values are joined before they are
read: every member is a member of one of them, and the commas that are put in between add nothing
but members without entries, where a value is empty.

## Main results

* `Vendor.entriesOf_append_cons`, `Vendor.entriesOf_intercalate`: joining before reading.
* `TraceParent.entry?_eq_some_iff`: the first entry with a key is the one that counts.
* `TraceParent.extract_repeated`: the context in headers with any number of states.
-/

namespace Telemetry

open Text

namespace Vendor

/-- A comma ends a member, wherever it is put. -/
theorem entriesOf_append_cons (a b : List Char) :
    entriesOf (String.ofList (a ++ ',' :: b)) =
      entriesOf (String.ofList a) ++ entriesOf (String.ofList b) := by
  simp only [entriesOf, String.toList_ofList, List.splitOn_append_cons_self, List.flatMap_append]

/-- **Values that are joined** have their entries one after the other. -/
theorem entriesOf_intercalate (values : List String) :
    entriesOf (String.intercalate "," values) = values.flatMap entriesOf := by
  induction values with
  | nil => rfl
  | cons value rest ih =>
    cases rest with
    | nil => simp
    | cons next rest =>
      have hjoin : String.intercalate "," (value :: next :: rest) =
          String.ofList (value.toList ++
            ',' :: (String.intercalate "," (next :: rest)).toList) := by
        apply String.toList_inj.mp
        simp [String.toList_intercalate]
      rw [hjoin, entriesOf_append_cons, String.ofList_toList, String.ofList_toList, ih]
      exact List.flatMap_cons.symm

end Vendor

namespace TraceParent

variable {tp : TraceParent} {header : String}

theorem entriesOf_joinValues (values : List String) :
    ((joinValues values).map Vendor.entriesOf).getD [] = values.flatMap Vendor.entriesOf := by
  cases values with
  | nil => rfl
  | cons value rest => exact Vendor.entriesOf_intercalate (value :: rest)

/-- Whether a header is accepted does not hang on the state, and the entries are those of the state
as it was sent. -/
theorem exists_parse_with (h : parse header none = .ok tp) (tracestate : Option String) :
    ∃ again, parse header tracestate = .ok again ∧
      again.entries = (tracestate.map Vendor.entriesOf).getD [] := by
  obtain ⟨hheader, -⟩ := isHeader_of_parse h
  exact ⟨_, parse_of_isHeader hheader tracestate, entriesOf_readState tracestate⟩

/-- **The first entry with a key** is the one that counts. -/
theorem entry?_eq_some_iff {key value : String} : tp.entry? key = some value ↔
    ∃ before after, tp.entries = before ++ (key, value) :: after ∧
      ∀ e ∈ before, e.1 ≠ key := by
  refine Option.map_eq_some_iff.trans ⟨?_, ?_⟩
  · rintro ⟨e, hfind, rfl⟩
    obtain ⟨hkey, before, after, hentries, hbefore⟩ := List.find?_eq_some_iff_append.mp hfind
    obtain rfl : e.1 = key := by simpa using hkey
    exact ⟨before, after, hentries, fun e' he' => by simpa using hbefore e' he'⟩
  · rintro ⟨before, after, hentries, hbefore⟩
    refine ⟨(key, value), List.find?_eq_some_iff_append.mpr ?_, rfl⟩
    exact ⟨by simp, before, after, hentries, fun e he => by simpa using hbefore e he⟩

/-- Reading each value by itself, with the same header. -/
theorem exists_parse_each (h : parse header none = .ok tp) (values : List String) :
    ∃ alone, List.Forall₂ (fun value part => parse header (some value) = .ok part) values alone ∧
      alone.flatMap (·.entries) = values.flatMap Vendor.entriesOf := by
  induction values with
  | nil => exact ⟨[], .nil, rfl⟩
  | cons value rest ih =>
    obtain ⟨part, hpart, hentries⟩ := exists_parse_with h (some value)
    obtain ⟨alone, hall, hrest⟩ := ih
    refine ⟨part :: alone, .cons hpart hall, ?_⟩
    rw [List.flatMap_cons, List.flatMap_cons, hrest, hentries]
    rfl

/-- **Repeated state headers** are read as if each of them had come alone: the entries are those of
the first value, then those of the second, and so on, whatever white space is around them and also
where there is nothing in a value. The first entry with a key is the one that counts. -/
theorem extract_repeated (carrier : Carrier)
    (hfound : (carrier traceParentHeader).head?.or (carrier legacyTraceParentHeader).head? =
      some header)
    (hvalid : parse header none = .ok tp) :
    ∃ merged alone, extract carrier = (some merged, []) ∧
      List.Forall₂ (fun value part => parse header (some value) = .ok part)
        (carrier traceStateHeader) alone ∧
      merged.entries = alone.flatMap (·.entries) ∧
      ∀ key value, merged.entry? key = some value ↔
        ∃ before after, alone.flatMap (·.entries) = before ++ (key, value) :: after ∧
          ∀ e ∈ before, e.1 ≠ key := by
  obtain ⟨merged, hmerged, hentries⟩ :=
    exists_parse_with hvalid (joinValues (carrier traceStateHeader))
  obtain ⟨alone, hall, halone⟩ := exists_parse_each hvalid (carrier traceStateHeader)
  have hsame : merged.entries = alone.flatMap (·.entries) := by
    rw [hentries, entriesOf_joinValues, halone]
  refine ⟨merged, alone, ?_, hall, hsame, fun key value => ?_⟩
  · simp only [extract, hfound, receive, hmerged]
  · rw [← hsame]
    exact entry?_eq_some_iff

/-- A message with four states. Two of them have entries of the agent, one is empty and one is
blank, and there is white space on either side of the commas that join them. -/
def fourStates : Carrier := fun name =>
  if name = traceParentHeader then [laterHeader]
  else if name = traceStateHeader then ["es=a:1;b : 2 ", "", " dd=1, es = a: 9,x=es ", " \u2003"]
  else []

theorem extract_repeated_fourStates :
    ∃ merged alone, extract fourStates = (some merged, []) ∧
      List.Forall₂ (fun value part => parse laterHeader (some value) = .ok part)
        (fourStates traceStateHeader) alone ∧
      alone.flatMap (·.entries) = [("a", "1"), ("b", "2"), ("a", "9")] ∧
      merged.entry? "a" = some "1" := by
  have hvalid : parse laterHeader none =
      .ok (ofNumbers 2 0x0af7651916cd43dd8448eb211c80319c 0xb7ad6b7169203331 9 none) := by
    decide +kernel
  obtain ⟨merged, alone, hextract, hall, hentries, hfirst⟩ :=
    extract_repeated fourStates (by decide +kernel) hvalid
  have hread : (extract fourStates).1.map (·.entries) =
      some [("a", "1"), ("b", "2"), ("a", "9")] := by
    decide +kernel
  rw [hextract, Option.map_some, Option.some.injEq, hentries] at hread
  refine ⟨merged, alone, hextract, hall, hread, (hfirst "a" "1").mpr ?_⟩
  exact ⟨[], [("b", "2"), ("a", "9")], hread, by simp⟩

end TraceParent

end Telemetry
