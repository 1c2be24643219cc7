import Telemetry.Proofs.Trace.Entries
import Telemetry.Proofs.Trace.HeaderGrammar

/-!
# Adding entries to a trace context

A context holds its entries twice: in a list, and as text in the state that is sent. Adding one has
to change both, or neither if the entry is refused. The next service sees the text alone, so what
matters is that it reads the entries there which the list has.

They are the same as far as they can be. White space around a key or a value is kept in the list and
in the text, and is lost to whoever reads it. Nothing else is lost, since what was read off a state
was cut at all punctuation that counts, and what is added may not have any.

## Main definitions

* `TraceParent.put`, `TraceParent.call`, `TraceParent.afterCalls`: adding entries in place.
* `TraceParent.IsOriginal`: contexts that are new or come from a header.
* `TraceParent.Attainable`: contexts that can be had at all.
* `TraceParent.Legible`: the entries are read off the state.

## Main results

* `TraceParent.call_eq`: in place or not, the same entries are added and refused.
* `TraceParent.Attainable.legible`: the entries of any context are.
* `TraceParent.afterCalls_isInStep`: what calls do to the list and the text, and what is read after
  them.
-/

namespace Telemetry

open Text

namespace TraceParent

variable {tp next : TraceParent} {key value : String} {e : Vendor.Error}

/-! ### Adding in place -/

/-- Adds an entry in place: looks at the key and the value, at the size of what will be written, and
only then writes. -/
def put (key value : String) : ExceptT Vendor.Error (StateM TraceParent) Unit := do
  if !key.toList.all Vendor.isEntryChar then throw (.invalidCharacter key)
  if !value.toList.all Vendor.isEntryChar then throw (.invalidCharacter value)
  let tp ← get
  let entries := Vendor.replace tp.entries key value
  let size := (Vendor.render entries).utf8ByteSize
  if size > Vendor.sizeLimit then throw (.tooLong size)
  set { tp with tracestate := some (Vendor.stateWith tp.tracestate entries) }
  modify ({ · with entries })

/-- The answer to a call that adds an entry, and the context afterwards. -/
def call (tp : TraceParent) (entry : Vendor.Entry) : Except Vendor.Error Unit × TraceParent :=
  (put entry.1 entry.2).run.run tp

/-- The context after some calls. -/
def afterCalls (tp : TraceParent) (calls : List Vendor.Entry) : TraceParent :=
  calls.foldl (fun tp entry => (tp.call entry).2) tp

/-- In place or not, the same entries are added and refused. -/
theorem call_eq (tp : TraceParent) (entry : Vendor.Entry) :
    tp.call entry = match tp.tryAddEntry entry.1 entry.2 with
      | .ok next => (.ok (), next)
      | .error e => (.error e, tp) := by
  obtain ⟨key, value⟩ := entry
  rw [tryAddEntry, Vendor.add, call, put]
  split
  · rfl
  split
  · rfl
  -- from here on the context is at hand that was looked up
  change StateT.run (m := Id) (ExceptT.run (ite _ _ _)) tp = _
  by_cases hsize :
      (Vendor.render (Vendor.replace tp.entries key value)).utf8ByteSize > Vendor.sizeLimit
  · simp only [hsize, if_true]
    rfl
  · simp only [hsize, if_false]
    rfl

/-- An entry may be added: there is no punctuation in it, and the entries have room for it. -/
structure Admits (tp : TraceParent) (key value : String) : Prop where
  keyChars : ∀ c ∈ key.toList, Vendor.isEntryChar c = true
  valueChars : ∀ c ∈ value.toList, Vendor.isEntryChar c = true
  size : (Vendor.render (Vendor.replace tp.entries key value)).utf8ByteSize ≤ 256

/-- What is added, if it may be. -/
theorem tryAddEntry_eq_ok_iff : tp.tryAddEntry key value = .ok next ↔
    tp.Admits key value ∧ next = { tp with
      tracestate := some (Vendor.stateWith tp.tracestate (Vendor.replace tp.entries key value))
      entries := Vendor.replace tp.entries key value } := by
  rw [tryAddEntry, Vendor.add]
  by_cases hkey : key.toList.all Vendor.isEntryChar = true
  swap
  · have hnot : ¬ tp.Admits key value := fun h => hkey (List.all_eq_true.mpr h.keyChars)
    simp [hkey, hnot]
  by_cases hvalue : value.toList.all Vendor.isEntryChar = true
  swap
  · have hnot : ¬ tp.Admits key value := fun h => hvalue (List.all_eq_true.mpr h.valueChars)
    simp [hkey, hvalue, hnot]
  by_cases hsize :
      (Vendor.render (Vendor.replace tp.entries key value)).utf8ByteSize > Vendor.sizeLimit
  · have hnot : ¬ tp.Admits key value := fun h => Nat.not_le.mpr hsize h.size
    simp [hkey, hvalue, hsize, hnot]
  · have hadmits : tp.Admits key value :=
      ⟨List.all_eq_true.mp hkey, List.all_eq_true.mp hvalue, Nat.not_lt.mp hsize⟩
    simp [hkey, hvalue, hsize, hadmits, eq_comm]

/-! ### Where contexts come from -/

/-- A context that is new, with identifiers that stand for something, or comes from a header. -/
inductive IsOriginal : TraceParent → Prop
  | create {traceId : TraceId} {spanId : SpanId} (htrace : traceId.isValid = true)
      (hspan : spanId.isValid = true) (recorded : Bool) :
      IsOriginal (.create traceId spanId recorded)
  | parse {header : String} {tracestate : Option String} {tp : TraceParent}
      (h : parse header tracestate = .ok tp) : IsOriginal tp
  | extract {carrier : Carrier} {tp : TraceParent} (h : (extract carrier).1 = some tp) :
      IsOriginal tp

/-- A context that can be had at all. -/
inductive Attainable : TraceParent → Prop
  | create (traceId : TraceId) (spanId : SpanId) (recorded : Bool) :
      Attainable (.create traceId spanId recorded)
  | parse {header : String} {tracestate : Option String} {tp : TraceParent}
      (h : parse header tracestate = .ok tp) : Attainable tp
  | ofBinary {bytes : List UInt8} {tp : TraceParent} (h : ofBinary? bytes = some tp) :
      Attainable tp
  | tryAddEntry {tp next : TraceParent} {key value : String} (htp : Attainable tp)
      (h : tp.tryAddEntry key value = .ok next) : Attainable next
  | withSpanId {tp : TraceParent} (htp : Attainable tp) (spanId : SpanId) :
      Attainable (tp.withSpanId spanId)
  | withRecorded {tp : TraceParent} (htp : Attainable tp) (recorded : Bool) :
      Attainable (tp.withRecorded recorded)

/-- What is taken out of headers is read off one of them. -/
theorem exists_parse_of_extract {carrier : Carrier} (h : (extract carrier).1 = some tp) :
    ∃ header tracestate, parse header tracestate = .ok tp := by
  rw [extract] at h
  split at h
  · rename_i header _
    rw [receive] at h
    split at h
    · rename_i hparse
      exact ⟨header, _, hparse.trans (congrArg _ (Option.some.inj h))⟩
    · cases h
  · cases h

theorem IsOriginal.attainable (h : tp.IsOriginal) : tp.Attainable := by
  cases h with
  | create _ _ recorded => exact .create _ _ recorded
  | parse h => exact .parse h
  | extract h =>
    obtain ⟨header, tracestate, hparse⟩ := exists_parse_of_extract h
    exact .parse hparse

/-- A header can say what the context is. -/
theorem IsOriginal.isValid (h : tp.IsOriginal) :
    tp.version ≠ 0xff ∧ tp.traceId.isValid = true ∧ tp.spanId.isValid = true := by
  cases h with
  | create htrace hspan _ => exact ⟨(by decide : (0 : UInt8) ≠ 0xff), htrace, hspan⟩
  | parse h => exact isValid_of_parse h
  | extract h =>
    obtain ⟨header, tracestate, hparse⟩ := exists_parse_of_extract h
    exact isValid_of_parse hparse

/-! ### Entries and state -/

/-- The entries are read off the state, but for the white space around them. -/
structure Legible (tp : TraceParent) : Prop where
  separable : ∀ e ∈ tp.entries, Vendor.IsSeparable e
  read : (tp.tracestate.map Vendor.entriesOf).getD [] = tp.entries.map Vendor.trimmed

/-- Taking white space off the state makes no difference to its entries. -/
theorem entriesOf_readState (tracestate : Option String) :
    ((readState tracestate).map Vendor.entriesOf).getD [] =
      (tracestate.map Vendor.entriesOf).getD [] := by
  cases tracestate with
  | none => rfl
  | some state =>
    have htrim := Vendor.entriesOf_trim state
    by_cases hempty : trim state.toList = []
    · have hnothing : Vendor.entriesOf "" = [] := rfl
      rw [hempty, String.ofList_nil, hnothing] at htrim
      simpa [readState, Option.filter, hempty] using htrim
    · simpa [readState, Option.filter, hempty] using htrim

/-- No entry is added that could not be told from what stands around it. -/
theorem isSeparable_of_admits (h : tp.Admits key value) : Vendor.IsSeparable (key, value) := by
  have hkey {c : Char} (hc : Vendor.isEntryChar c = false) : c ∉ key.toList := fun hmem =>
    Bool.false_ne_true (hc.symm.trans (h.keyChars c hmem))
  have hvalue {c : Char} (hc : Vendor.isEntryChar c = false) : c ∉ value.toList := fun hmem =>
    Bool.false_ne_true (hc.symm.trans (h.valueChars c hmem))
  exact ⟨⟨hkey (by decide), hkey (by decide), hkey (by decide)⟩, hvalue (by decide),
    hvalue (by decide)⟩

theorem Legible.separable_replace (h : tp.Legible) (hadmits : tp.Admits key value) :
    ∀ e ∈ Vendor.replace tp.entries key value, Vendor.IsSeparable e := by
  intro e he
  rcases List.mem_append.mp he with he | he
  · exact h.separable e (List.mem_filter.mp he).1
  · obtain rfl := List.mem_singleton.mp he
    exact isSeparable_of_admits hadmits

/-- **Entries stay legible** when one more is added. -/
theorem Legible.tryAddEntry (h : tp.Legible) (hadd : tp.tryAddEntry key value = .ok next) :
    next.Legible := by
  obtain ⟨hadmits, rfl⟩ := tryAddEntry_eq_ok_iff.mp hadd
  exact ⟨h.separable_replace hadmits, Vendor.entriesOf_stateWith (h.separable_replace hadmits)⟩

/-- What is read off a header is legible. -/
theorem legible_of_parse {header : String} {tracestate : Option String}
    (h : parse header tracestate = .ok tp) : tp.Legible := by
  obtain ⟨hstate, hentries⟩ := state_of_parse h
  rw [← hstate] at hentries
  have hread : ∀ e ∈ tp.entries, Vendor.IsSeparable e ∧ Vendor.trimmed e = e := by
    intro e he
    rw [hentries] at he
    cases hsome : tp.tracestate with
    | none => simp [hsome] at he
    | some state =>
      rw [hsome] at he
      exact Vendor.isSeparable_of_mem_entriesOf he
  refine ⟨fun e he => (hread e he).1, ?_⟩
  calc (tp.tracestate.map Vendor.entriesOf).getD [] = tp.entries.map id := by
        rw [← hentries, List.map_id]
    _ = tp.entries.map Vendor.trimmed :=
        List.map_congr_left fun e he => (hread e he).2.symm

/-- **The entries of any context** are read off its state. -/
theorem Attainable.legible (h : tp.Attainable) : tp.Legible := by
  induction h with
  | create => exact ⟨by simp [TraceParent.create], rfl⟩
  | parse h => exact legible_of_parse h
  | ofBinary h =>
    rw [ofBinary?] at h
    split at h
    · obtain rfl := Option.some.inj h
      exact ⟨by simp, rfl⟩
    · cases h
  | tryAddEntry _ h ih => exact ih.tryAddEntry h
  | withSpanId _ _ ih => exact ⟨ih.separable, ih.read⟩
  | withRecorded _ _ ih => exact ⟨ih.separable, ih.read⟩

/-! ### Runs -/

/-- What an added entry changes. -/
structure Takes (tp next : TraceParent) (key value : String) : Prop where
  entries : next.entries = tp.entries.filter (·.1 ≠ key) ++ [(key, value)]
  size : (Vendor.render next.entries).utf8ByteSize ≤ 256
  tracestate : next.tracestate = some (String.intercalate ","
    (("es=" ++ Vendor.render next.entries) :: Vendor.others tp.tracestate))
  rest : { next with tracestate := tp.tracestate, entries := tp.entries } = tp

/-- What the next service reads: the same, but for the white space around keys and values. -/
structure IsReadAs (tp again : TraceParent) : Prop where
  version : again.version = tp.version
  traceId : again.traceId = tp.traceId
  spanId : again.spanId = tp.spanId
  flags : again.flags = tp.flags
  entries : again.entries = tp.entries.map Vendor.trimmed

/-- What holds before and after any call. -/
structure IsInStep (tp : TraceParent) : Prop where
  /-- A refused entry changes nothing. -/
  refused : ∀ entry e next, tp.call entry = (.error e, next) → next = tp
  /-- An accepted entry changes the list and the text. -/
  accepted : ∀ key value next, tp.call (key, value) = (.ok (), next) → tp.Takes next key value
  /-- An entry is accepted if it may be added. -/
  admitted : ∀ key value, (∃ next, tp.call (key, value) = (.ok (), next)) ↔ tp.Admits key value
  /-- The next service reads the entries of the list off the text. -/
  reread : ∃ again, parse tp.header tp.tracestate = .ok again ∧ tp.IsReadAs again

theorem call_eq_ok_iff : tp.call (key, value) = (.ok (), next) ↔
    tp.tryAddEntry key value = .ok next := by
  rw [call_eq]
  cases tp.tryAddEntry key value <;> simp

theorem eq_of_call_eq_error {entry : Vendor.Entry} (h : tp.call entry = (.error e, next)) :
    next = tp := by
  rw [call_eq] at h
  split at h
  · cases h
  · exact (congrArg Prod.snd h).symm

theorem takes_of_tryAddEntry (h : tp.tryAddEntry key value = .ok next) :
    tp.Takes next key value := by
  obtain ⟨hadmits, rfl⟩ := tryAddEntry_eq_ok_iff.mp h
  exact ⟨rfl, hadmits.size, rfl, rfl⟩

/-- Whatever holds of a context and of any that an entry is added to holds after all calls. -/
theorem afterCalls_induction {P : TraceParent → Prop}
    (add : ∀ {tp next key value}, P tp → tryAddEntry tp key value = .ok next → P next) (h : P tp)
    (calls : List Vendor.Entry) : P (tp.afterCalls calls) := by
  induction calls generalizing tp with
  | nil => exact h
  | cons entry rest ih =>
    have hnext : P (tp.call entry).2 := by
      rw [call_eq]
      split
      · rename_i hadd
        exact add h hadd
      · exact h
    exact ih hnext

/-- A context whose header and state say all that there is to say. -/
structure IsTold (tp : TraceParent) : Prop extends tp.Legible where
  version : tp.version ≠ 0xff
  traceId : tp.traceId.isValid = true
  spanId : tp.spanId.isValid = true

theorem IsTold.tryAddEntry (h : tp.IsTold) (hadd : tp.tryAddEntry key value = .ok next) :
    next.IsTold := by
  have hlegible := h.toLegible.tryAddEntry hadd
  obtain ⟨-, rfl⟩ := tryAddEntry_eq_ok_iff.mp hadd
  exact ⟨hlegible, h.version, h.traceId, h.spanId⟩

theorem IsOriginal.isTold (h : tp.IsOriginal) : tp.IsTold := by
  obtain ⟨hversion, htrace, hspan⟩ := h.isValid
  exact ⟨h.attainable.legible, hversion, htrace, hspan⟩

theorem Legible.others_tryAddEntry (h : tp.Legible)
    (hadd : tp.tryAddEntry key value = .ok next) :
    Vendor.others next.tracestate = Vendor.others tp.tracestate := by
  obtain ⟨hadmits, rfl⟩ := tryAddEntry_eq_ok_iff.mp hadd
  exact Vendor.otherMembers_stateWith (h.separable_replace hadmits)

/-- **Text and list are in step** where the header and the state say all there is. -/
theorem IsTold.isInStep (h : tp.IsTold) : tp.IsInStep where
  refused := fun _ _ _ => eq_of_call_eq_error
  accepted := fun _ _ _ hcall => takes_of_tryAddEntry (call_eq_ok_iff.mp hcall)
  admitted := fun key value => by
    simp only [call_eq_ok_iff, tryAddEntry_eq_ok_iff]
    exact ⟨fun ⟨_, h, _⟩ => h, fun h => ⟨_, h, rfl⟩⟩
  reread := by
    refine ⟨_, parse_header_with h.version h.traceId h.spanId _, rfl, rfl, rfl, rfl, ?_⟩
    rw [entriesOf_readState, h.read]

/-- **Entries are added as they are said to be, or not at all**, and after any calls the next
service reads off the text what is in the list. The members of other vendors are never touched. -/
theorem afterCalls_isInStep (h : tp.IsOriginal) (calls : List Vendor.Entry) :
    (tp.afterCalls calls).IsInStep ∧
      Vendor.others (tp.afterCalls calls).tracestate = Vendor.others tp.tracestate := by
  obtain ⟨htold, hothers⟩ := afterCalls_induction
    (P := fun now => now.IsTold ∧ Vendor.others now.tracestate = Vendor.others tp.tracestate)
    (fun hnow hadd => ⟨hnow.1.tryAddEntry hadd,
      (hnow.1.toLegible.others_tryAddEntry hadd).trans hnow.2⟩)
    ⟨h.isTold, rfl⟩ calls
  exact ⟨htold.isInStep, hothers⟩

/-- A state with two members of the agent, odd spacing, and a member without anything in it. -/
def oddState : String := " dd=1, es = a: 1;b , ,es=c:2:3 ,x=es "

/-- Three calls, of which the second one is refused. -/
def threeCalls : List Vendor.Entry := [("a", " 9 "), ("k:", "v"), ("s", "0.5 ")]

theorem afterCalls_isInStep_oddState :
    ∃ tp, parse laterHeader (some oddState) = .ok tp ∧ tp.entries = [("a", "1"), ("c", "2:3")] ∧
      (tp.afterCalls threeCalls).tracestate = some "es=c:2:3;a: 9 ;s:0.5 ,dd=1,x=es" ∧
      (tp.afterCalls threeCalls).IsInStep := by
  have hparse : parse laterHeader (some oddState) =
      .ok (ofNumbers 2 0x0af7651916cd43dd8448eb211c80319c 0xb7ad6b7169203331 9
        (some oddState)) := by
    decide +kernel
  exact ⟨_, hparse, by decide +kernel, by decide +kernel,
    (afterCalls_isInStep (.parse hparse) threeCalls).1⟩

end TraceParent

end Telemetry
