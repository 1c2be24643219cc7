import Telemetry.Proofs.Trace.Editing
import Telemetry.Proofs.Trace.Encodings

/-!
# Headers that are used again

A client may keep one set of headers and put the context of each call into it. What it writes takes
the place of what was there, so the call before leaves no trace, and headers with other names are
left alone.

There is one exception. A context without state writes no state header, and does not take one away
either. If the headers hold the state of another call, then that is what the next service finds, and
takes for a part of this context. It makes no difference if the state that was left there is blank.

## Main definitions

* `propagationHeaders`: the names that contexts are written under.
* `TraceParent.withStateFound`: a context as it arrives in headers that held some state before.

## Main results

* `TraceParent.IsOriginal.sendable`, `TraceParent.Sendable.afterCalls`: contexts can be sent, also
  after entries were added.
* `TraceParent.Sendable.extract_inject_eq`: what arrives in headers that are used again.
* `TraceParent.extract_inject_iff`: when it is what was sent.
* `TraceParent.not_extract_inject_usedHeaders`: headers where it is not.
-/

namespace Telemetry

open Text

/-! ### States without white space at their ends -/

namespace Vendor

variable {e : Entry} {entries : List Entry}

theorem trimEnd_entryChars (h : trimmed e = e) : trimEnd (entryChars e) = entryChars e := by
  have hvalue : trim e.2.toList = e.2.toList := by
    conv_rhs => rw [← h]
    simp [trimmed]
  rw [entryChars, trimEnd_append_cons (by decide), trimEnd_of_trim hvalue]

theorem trimEnd_memberChars (h : ∀ e ∈ entries, trimmed e = e) :
    trimEnd (memberChars entries) = memberChars entries := by
  have hrender : trimEnd (render entries).toList = (render entries).toList := by
    rw [toList_render]
    refine trimEnd_intercalate (by decide) fun piece hpiece => ?_
    obtain ⟨e, he, rfl⟩ := List.mem_map.mp hpiece
    exact trimEnd_entryChars (h e he)
  exact (trimEnd_append_cons (by decide) ['e', 's'] _).trans
    (congrArg (fun t => ['e', 's'] ++ '=' :: t) hrender)

/-- **A state that was written** has no white space at its ends, if its entries have none. -/
theorem trim_stateWith (h : ∀ e ∈ entries, trimmed e = e) (tracestate : Option String) :
    trim (stateWith tracestate entries).toList = (stateWith tracestate entries).toList := by
  have hend : trimEnd (stateWith tracestate entries).toList =
      (stateWith tracestate entries).toList := by
    rw [toList_stateWith]
    refine trimEnd_intercalate (by decide) fun piece hpiece => ?_
    rcases List.mem_cons.mp hpiece with rfl | hpiece
    · exact trimEnd_memberChars h
    · obtain ⟨member, hmember, rfl⟩ := List.mem_map.mp hpiece
      exact trimEnd_of_trim (of_mem_others hmember).2.1
  -- it begins with the key of the agent's member
  obtain ⟨rest, hfront⟩ : ∃ rest, (stateWith tracestate entries).toList = 'e' :: rest := by
    rw [toList_stateWith]
    cases (others tracestate).map String.toList with
    | nil => exact ⟨_, rfl⟩
    | cons member members => exact ⟨_, rfl⟩
  rw [hfront, trim_cons (by decide), ← hfront, hend]

end Vendor

/-- The names that a context is written under. -/
def propagationHeaders : List String :=
  [traceParentHeader, legacyTraceParentHeader, traceStateHeader]

namespace TraceParent

variable {tp next : TraceParent} {key value : String}

/-! ### Contexts that arrive -/

theorem readState_stateWith {entries : List Vendor.Entry}
    (h : ∀ e ∈ entries, Vendor.trimmed e = e) (tracestate : Option String) :
    readState (some (Vendor.stateWith tracestate entries)) =
      some (Vendor.stateWith tracestate entries) := by
  have hsome : (Vendor.stateWith tracestate entries).toList ≠ [] := by
    rw [Vendor.toList_stateWith]
    cases (Vendor.others tracestate).map String.toList <;> simp [Vendor.memberChars]
  simp [readState, Option.filter, Vendor.trim_stateWith h, hsome]

/-- The entries of a context that can be sent could be read off a state, since they were. -/
theorem Sendable.isSeparable (h : tp.Sendable) :
    ∀ e ∈ tp.entries, Vendor.IsSeparable e ∧ Vendor.trimmed e = e := by
  intro e he
  rw [h.entries] at he
  cases hstate : tp.tracestate with
  | none => simp [hstate] at he
  | some state =>
    rw [hstate] at he
    exact Vendor.isSeparable_of_mem_entriesOf he

theorem map_trimmed {entries : List Vendor.Entry} (h : ∀ e ∈ entries, Vendor.trimmed e = e) :
    entries.map Vendor.trimmed = entries :=
  (List.map_congr_left h).trans (List.map_id _)

theorem Sendable.legible (h : tp.Sendable) : tp.Legible where
  separable := fun e he => (h.isSeparable e he).1
  read := by rw [map_trimmed fun e he => (h.isSeparable e he).2, ← h.entries]

/-- **A context can still be sent** when an entry without white space around it was added. -/
theorem Sendable.tryAddEntry (h : tp.Sendable) (hentry : Vendor.trimmed (key, value) = (key, value))
    (hadd : tp.tryAddEntry key value = .ok next) : next.Sendable := by
  obtain ⟨hadmits, rfl⟩ := tryAddEntry_eq_ok_iff.mp hadd
  have htrimmed : ∀ e ∈ Vendor.replace tp.entries key value, Vendor.trimmed e = e := by
    intro e he
    rcases List.mem_append.mp he with he | he
    · exact (h.isSeparable e (List.mem_filter.mp he).1).2
    · obtain rfl := List.mem_singleton.mp he
      exact hentry
  refine ⟨h.version, h.traceId, h.spanId, readState_stateWith htrimmed _, ?_⟩
  calc Vendor.replace tp.entries key value
      = (Vendor.replace tp.entries key value).map Vendor.trimmed := (map_trimmed htrimmed).symm
    _ = Vendor.entriesOf (Vendor.stateWith tp.tracestate (Vendor.replace tp.entries key value)) :=
        (Vendor.entriesOf_stateWith (h.legible.separable_replace hadmits)).symm

theorem sendable_of_parse {header : String} {tracestate : Option String}
    (h : parse header tracestate = .ok tp) : tp.Sendable := by
  obtain ⟨hversion, htrace, hspan⟩ := isValid_of_parse h
  obtain ⟨hstate, hentries⟩ := state_of_parse h
  refine ⟨hversion, htrace, hspan, ?_, by rw [hentries, hstate]⟩
  rw [hstate, readState_readState]

/-- A context that is new or was received can be sent. -/
theorem IsOriginal.sendable (h : tp.IsOriginal) : tp.Sendable := by
  cases h with
  | create htrace hspan _ => exact ⟨(by decide : (0 : UInt8) ≠ 0xff), htrace, hspan, rfl, rfl⟩
  | parse hparse => exact sendable_of_parse hparse
  | extract hextract =>
    obtain ⟨header, tracestate, hparse⟩ := exists_parse_of_extract hextract
    exact sendable_of_parse hparse

/-- Whatever is added or refused, a context can be sent afterwards. -/
theorem Sendable.afterCalls (h : tp.Sendable) {calls : List Vendor.Entry}
    (hcalls : ∀ entry ∈ calls, Vendor.trimmed entry = entry) : (tp.afterCalls calls).Sendable := by
  induction calls generalizing tp with
  | nil => exact h
  | cons entry rest ih =>
    have hnext : (tp.call entry).2.Sendable := by
      rw [call_eq]
      split
      · rename_i hadd
        exact h.tryAddEntry (hcalls entry List.mem_cons_self) hadd
      · exact h
    exact ih hnext fun e he => hcalls e (List.mem_cons_of_mem entry he)

/-! ### What arrives -/

/-- A context as it arrives in headers that held some state before: if it has none of its own, it is
given that one. -/
def withStateFound (tp : TraceParent) (found : Option String) : TraceParent :=
  match tp.tracestate with
  | some _ => tp
  | none => { tp with
      tracestate := readState found
      entries := ((readState found).map Vendor.entriesOf).getD [] }

theorem withStateFound_of_some {state : String} (h : tp.tracestate = some state)
    (found : Option String) : tp.withStateFound found = tp := by
  rw [withStateFound, h]

theorem withStateFound_of_none (h : tp.tracestate = none) (found : Option String) :
    tp.withStateFound found = { tp with
      tracestate := readState found
      entries := ((readState found).map Vendor.entriesOf).getD [] } := by
  rw [withStateFound, h]

/-- A context arrives as it is if it has a state, or none was there. -/
theorem Sendable.withStateFound_eq_self_iff (h : tp.Sendable) {found : Option String} :
    tp.withStateFound found = tp ↔ (tp.tracestate = none → readState found = none) := by
  cases hstate : tp.tracestate with
  | some state => simp [withStateFound_of_some hstate]
  | none =>
    rw [withStateFound_of_none hstate]
    refine ⟨fun heq _ => (congrArg TraceParent.tracestate heq).trans hstate, fun hnone => ?_⟩
    rw [hnone rfl, ← hstate, ← h.entries]

/-- **What arrives in headers that are used again.** -/
theorem Sendable.extract_inject_eq (h : tp.Sendable) (headers : Headers) (legacy : Bool) :
    extract (tp.inject headers legacy).carrier =
      (some (tp.withStateFound (headers.get? traceStateHeader)), []) := by
  have hparse : parse tp.header (tp.tracestate.or (headers.get? traceStateHeader)) =
      .ok (tp.withStateFound (headers.get? traceStateHeader)) := by
    cases hstate : tp.tracestate with
    | some state =>
      rw [withStateFound_of_some hstate, Option.some_or, ← hstate]
      exact parse_header h
    | none =>
      rw [withStateFound_of_none hstate, Option.none_or]
      exact parse_header_with h.version h.traceId h.spanId _
  simp only [extract, Headers.carrier, get?_inject_traceParent, get?_inject_traceState,
    joinValues_toList, Option.toList_some, List.head?_cons, Option.some_or, receive, hparse]

/-- Other headers are left alone. -/
theorem get?_inject_of_not_mem {name : String} (hname : name ∉ propagationHeaders)
    (tp : TraceParent) (headers : Headers) (legacy : Bool) :
    (tp.inject headers legacy).get? name = headers.get? name := by
  simp only [propagationHeaders, List.mem_cons, List.not_mem_nil, or_false, not_or] at hname
  obtain ⟨hparent, hlegacy, hstate⟩ := hname
  have hfront : Headers.get? name (Headers.set traceParentHeader tp.header
      (if legacy then headers.set legacyTraceParentHeader tp.header else headers)) =
        headers.get? name := by
    rw [Headers.get?_set_of_ne hparent]
    cases legacy with
    | false => rfl
    | true => exact Headers.get?_set_of_ne hlegacy _ _
  simp only [inject]
  cases tp.tracestate with
  | none => exact hfront
  | some state => exact (Headers.get?_set_of_ne hstate _ _).trans hfront

/-- **Taking a context out of headers undoes putting it there**, whatever they held before, if it
has a state or the headers had none. Otherwise it arrives with the state that was there. Nothing
else in the headers changes. -/
theorem extract_inject_iff (h : tp.IsOriginal) {calls : List Vendor.Entry}
    (hcalls : ∀ entry ∈ calls, Vendor.trimmed entry = entry) (headers : Headers) (legacy : Bool) :
    (extract ((tp.afterCalls calls).inject headers legacy).carrier =
        (some (tp.afterCalls calls), []) ↔
      ((tp.afterCalls calls).tracestate = none →
        readState (headers.get? traceStateHeader) = none)) ∧
    extract ((tp.afterCalls calls).inject headers legacy).carrier =
      (some ((tp.afterCalls calls).withStateFound (headers.get? traceStateHeader)), []) ∧
    ∀ name, name ∉ propagationHeaders →
      ((tp.afterCalls calls).inject headers legacy).get? name = headers.get? name := by
  have hsendable := h.sendable.afterCalls hcalls
  have harrives := hsendable.extract_inject_eq headers legacy
  refine ⟨?_, harrives, fun name hname => get?_inject_of_not_mem hname _ _ _⟩
  rw [harrives, ← hsendable.withStateFound_eq_self_iff, Prod.mk.injEq, Option.some.injEq]
  exact and_iff_left rfl

/-- Headers that held another context, its state and something else. -/
def usedHeaders : Headers :=
  [("accept", "*/*"), (traceStateHeader, "es=s:0.1"),
    (traceParentHeader, "00-11111111111111111111111111111111-2222222222222222-00")]

/-- A context with a state of its own takes the place of the one that was there. -/
theorem extract_inject_iff_usedHeaders :
    ∃ tp, parse laterHeader (some oddState) = .ok tp ∧
      extract ((tp.afterCalls [("a", "9"), ("k:", "v")]).inject usedHeaders true).carrier =
        (some (tp.afterCalls [("a", "9"), ("k:", "v")]), []) ∧
      ((tp.afterCalls [("a", "9"), ("k:", "v")]).inject usedHeaders true).get? "accept" =
        some "*/*" := by
  have hparse : parse laterHeader (some oddState) =
      .ok (ofNumbers 2 0x0af7651916cd43dd8448eb211c80319c 0xb7ad6b7169203331 9
        (some oddState)) := by
    decide +kernel
  have hcalls : ∀ entry ∈ [("a", "9"), ("k:", "v")], Vendor.trimmed entry = entry := by
    decide +kernel
  obtain ⟨hiff, -, hrest⟩ := extract_inject_iff (.parse hparse) hcalls usedHeaders true
  have hstate : ((ofNumbers 2 0x0af7651916cd43dd8448eb211c80319c 0xb7ad6b7169203331 9
      (some oddState)).afterCalls [("a", "9"), ("k:", "v")]).tracestate ≠ none := by
    decide +kernel
  exact ⟨_, hparse, hiff.mpr fun hnone => absurd hnone hstate, hrest "accept" (by decide)⟩

/-- **A context without state** arrives with that of another call. -/
theorem not_extract_inject_usedHeaders :
    ¬ ∀ (tp : TraceParent), tp.IsOriginal → ∀ calls : List Vendor.Entry,
      (∀ entry ∈ calls, Vendor.trimmed entry = entry) → ∀ (headers : Headers) (legacy : Bool),
      extract ((tp.afterCalls calls).inject headers legacy).carrier =
        (some (tp.afterCalls calls), []) := by
  intro h
  have hnew : IsOriginal (.create (.ofNat 1) (.ofNat 2) true) :=
    .create (by decide) (by decide) true
  have harrives := h _ hnew [] (by simp) usedHeaders false
  revert harrives
  decide +kernel

end TraceParent

end Telemetry
