import Telemetry.Proofs.Redaction.Noninterference

/-!
# More sensitive names

A longer list of sensitive names should hide more. It does wherever a value is looked up by its own
name: what one list hides, no longer list shows.

The body of a form is different. Its pairs are cut out only if the content type says that it is a
form, and this is asked when the headers have been redacted. A longer list that fits the name of the
content type hides that too, and then the body is sent as it is, with everything that the shorter
list kept back. So for the pairs of a form it has to be assumed that the content type can still be
read.

## Main definitions

* `Place`, `Place.value?`: where the usual chain replaces values, and what stands there.

## Main results

* `ProcessorChain.process_monotone`: a longer list shows nothing that a shorter one hides.
* `ProcessorChain.not_process_monotone`: without the assumption it can.
-/

namespace Telemetry

open Text

/-! ### Places -/

/-- An object of a context in which values are replaced by their keys. -/
inductive SensitiveObject
  | requestHeaders
  | responseHeaders
  | cookies
  | body
  deriving DecidableEq

/-- A text of a context in which the values of pairs are replaced. -/
inductive SensitiveText
  | cookieHeader (name : String)
  | form
  | query
  deriving DecidableEq

/-- A place of a context at which there can be a value that is replaced. -/
inductive Place
  | field (object : SensitiveObject) (key : String)
  | pair (text : SensitiveText) (index : Nat)
  deriving DecidableEq

/-- Where an object is found. -/
def SensitiveObject.path : SensitiveObject → List String
  | requestHeaders => ["request", "headers"]
  | responseHeaders => ["response", "headers"]
  | cookies => ["request", "cookies"]
  | body => ["request", "body"]

/-- The text under a key of the object at the end of a path. -/
def Fields.textAt? (path : List String) (key : String) (context : Fields) : Option (List Char) :=
  (((context.objectAt? path).bind (get? key)).bind Json.str?).map String.toList

/-- A query string without the question mark at its front. -/
def withoutMark : List Char → List Char
  | '?' :: query => query
  | query => query

/-- The pairs of a text, if it is there. -/
def SensitiveText.pairs? (context : Fields) : SensitiveText → Option (List (List Char))
  | cookieHeader name =>
    if isHeaderNamed "cookie" name then
      (context.textAt? ["request", "headers"] name).map (splitText [';', ' '])
    else none
  | form => (context.textAt? ["request"] "body").map (splitText ['&'])
  | query => (context.textAt? ["request", "url"] "search").map (splitText ['&'] ∘ withoutMark)

/-- The value of a pair. -/
def pairValue? (pair : List Char) : Option Json :=
  (splitOnce? '=' pair).map fun p => .str (String.ofList p.2)

/-- What stands at a place. -/
def Place.value? (place : Place) (context : Fields) : Option Json :=
  match place with
  | field object key => (context.objectAt? object.path).bind (Fields.get? key)
  | pair text index => ((text.pairs? context).bind (·[index]?)).bind pairValue?

/-- What stands at a place of the context of an event. -/
def Event.valueAt? (e : Event) (place : Place) : Option Json :=
  e.context.bind place.value?

variable {m n : FieldMatcher}

/-! ### Objects after redaction -/

/-- What becomes of a sensitive object. -/
def SensitiveObject.redact (m : FieldMatcher) : SensitiveObject → Fields → Fields
  | requestHeaders => redactCookieHeader m ∘ redactFields m
  | responseHeaders | cookies | body => redactFields m

variable (m) in
/-- The request of a redacted context. -/
theorem objectAt?_redact_request (context : Fields) :
    Fields.objectAt? ["request"] ((⟨Processor.all, m⟩ : ProcessorChain).redact context) =
      (context.objectAt? ["request"]).map fun request =>
        request.map fun x => (x.1, redactRequestPart m (takenForForm m context) x.1 x.2) := by
  rw [ProcessorChain.redact_all_eq_map]
  exact Fields.objectAt?_map (fun v => Json.fields?_mapFields _ v) context

variable (m) in
/-- The response of a redacted context. -/
theorem objectAt?_redact_response (context : Fields) :
    Fields.objectAt? ["response"] ((⟨Processor.all, m⟩ : ProcessorChain).redact context) =
      (context.objectAt? ["response"]).map (·.modifyObject "headers" (redactFields m)) := by
  rw [ProcessorChain.redact_all_eq_map]
  exact Fields.objectAt?_map (fun v => Json.fields?_mapFields _ v) context

variable (m) in
/-- An object of the request of a redacted context. -/
theorem objectAt?_redact_requestPart {G : Fields → Fields} {key : String} (context : Fields)
    (hG : ∀ v, (redactRequestPart m (takenForForm m context) key v).fields? = v.fields?.map G) :
    Fields.objectAt? ["request", key] ((⟨Processor.all, m⟩ : ProcessorChain).redact context) =
      (context.objectAt? ["request", key]).map G := by
  rw [Fields.objectAt?_pair, objectAt?_redact_request, Fields.objectAt?_pair]
  cases context.objectAt? ["request"] with
  | none => rfl
  | some request => exact Fields.objectAt?_map hG request

theorem fields?_redactBodyValue (form : Bool) (v : Json) :
    (redactBodyValue m form v).fields? = v.fields?.map (redactFields m) := by
  cases v <;> rfl

variable (m) in
/-- Every sensitive object is redacted on its own. -/
theorem SensitiveObject.objectAt?_redact (object : SensitiveObject) (context : Fields) :
    Fields.objectAt? object.path ((⟨Processor.all, m⟩ : ProcessorChain).redact context) =
      (context.objectAt? object.path).map (object.redact m) := by
  cases object with
  | requestHeaders =>
    exact objectAt?_redact_requestPart m context fun v => Json.fields?_mapFields _ v
  | responseHeaders =>
    rw [path, Fields.objectAt?_pair, objectAt?_redact_response, Fields.objectAt?_pair]
    cases context.objectAt? ["response"] with
    | none => rfl
    | some response =>
      rw [Option.map_some, Option.bind_some, Option.bind_some, Fields.objectAt?_modifyObject,
        Fields.objectAt?]
      cases (response.get? "headers").bind Json.fields? <;> rfl
  | cookies => exact objectAt?_redact_requestPart m context fun v => Json.fields?_mapFields _ v
  | body => exact objectAt?_redact_requestPart m context fun v => fields?_redactBodyValue _ v

/-- What becomes of a value under a key of a sensitive object. -/
def SensitiveObject.redactValue (m : FieldMatcher) : SensitiveObject → String → Json → Json
  | requestHeaders, key, v => redactHeader m key v
  | responseHeaders, key, v | cookies, key, v | body, key, v =>
    if m.hits key.toList then .str redacted else v

theorem SensitiveObject.get?_redact (object : SensitiveObject) (key : String) (f : Fields) :
    Fields.get? key (object.redact m f) = (f.get? key).map (object.redactValue m key) := by
  cases object with
  | requestHeaders =>
    rw [redact, Function.comp_apply, redactCookieHeader_redactFields]
    exact Fields.get?_map (redactHeader m) key f
  | responseHeaders | cookies | body =>
    rw [redact, redactFields_eq_map]
    exact Fields.get?_map (fun k v => if m.hits k.toList then .str redacted else v) key f

/-! ### Texts after redaction -/

theorem Fields.textAt?_eq_of_objectAt? {path : List String} {key : String} {c d : Fields}
    {G : Fields → Fields} {H : Json → Json} (hobject : d.objectAt? path = (c.objectAt? path).map G)
    (hget : ∀ f : Fields, Fields.get? key (G f) = (f.get? key).map H) (F : List Char → List Char)
    (hstr : ∀ v : Json, (H v).str? = v.str?.map fun s => String.ofList (F s.toList)) :
    d.textAt? path key = (c.textAt? path key).map F := by
  rw [textAt?, textAt?, hobject]
  cases c.objectAt? path with
  | none => rfl
  | some f =>
    simp only [Option.map_some, Option.bind_some, hget]
    cases f.get? key with
    | none => rfl
    | some v => cases hv : v.str? <;> simp [hstr, hv]

variable (m) in
/-- A header with a sensitive name reads as redacted, if it is there. -/
theorem textAt?_redact_of_hits {name : String} (hhits : m.hits name.toList = true)
    {context : Fields} {s : List Char}
    (h : Fields.textAt? ["request", "headers"] name
      ((⟨Processor.all, m⟩ : ProcessorChain).redact context) = some s) : s = redacted.toList := by
  have hobject := SensitiveObject.requestHeaders.objectAt?_redact m context
  rw [SensitiveObject.path] at hobject
  rw [Fields.textAt?, hobject] at h
  obtain ⟨text, htext, rfl⟩ := Option.map_eq_some_iff.mp h
  obtain ⟨value, hvalue, hstr⟩ := Option.bind_eq_some_iff.mp htext
  obtain ⟨headers, hheaders, hget⟩ := Option.bind_eq_some_iff.mp hvalue
  obtain ⟨f, -, rfl⟩ := Option.map_eq_some_iff.mp hheaders
  rw [SensitiveObject.get?_redact] at hget
  obtain ⟨v, -, rfl⟩ := Option.map_eq_some_iff.mp hget
  rw [SensitiveObject.redactValue, redactHeader, if_pos hhits] at hstr
  exact congrArg String.toList (Option.some.inj hstr).symm

variable (m) in
/-- A cookie header with a sensitive name has no values of pairs any more. -/
theorem value?_redact_of_hits {name : String} (hhits : m.hits name.toList = true)
    (context : Fields) (index : Nat) :
    Place.value? (.pair (.cookieHeader name) index)
      ((⟨Processor.all, m⟩ : ProcessorChain).redact context) = none := by
  simp only [Place.value?, SensitiveText.pairs?]
  split
  · rw [Option.bind_eq_none_iff]
    intro p hp
    obtain ⟨ps, hps, hget⟩ := Option.bind_eq_some_iff.mp hp
    obtain ⟨s, hs, rfl⟩ := Option.map_eq_some_iff.mp hps
    rw [textAt?_redact_of_hits m hhits hs] at hget
    obtain rfl : p = redacted.toList := List.mem_singleton.mp (List.mem_of_getElem? hget)
    rfl
  · rfl

variable (m) in
/-- A cookie header whose name is not sensitive is redacted pair by pair. -/
theorem pairs?_redact_cookieHeader {name : String} (hhits : m.hits name.toList = false)
    (context : Fields) :
    SensitiveText.pairs? ((⟨Processor.all, m⟩ : ProcessorChain).redact context)
        (.cookieHeader name) =
      (SensitiveText.pairs? context (.cookieHeader name)).map (·.map (redactPair m)) := by
  rw [SensitiveText.pairs?, SensitiveText.pairs?]
  split
  · rename_i hname
    have htext := Fields.textAt?_eq_of_objectAt?
      (SensitiveObject.requestHeaders.objectAt?_redact m context)
      (SensitiveObject.requestHeaders.get?_redact name) (redactPairs m [';', ' ']) fun v => by
        cases v <;> simp [SensitiveObject.redactValue, redactHeader, hhits, hname, Json.mapText,
          Json.str?]
    rw [SensitiveObject.path] at htext
    rw [htext, Option.map_map, Option.map_map]
    exact Option.map_congr fun s _ => splitText_redactPairs m pairSeparator_cookie s
  · rfl

variable (m) in
/-- The pairs of a body are redacted one by one if it is taken for a form. -/
theorem pairs?_redact_form (context : Fields) :
    SensitiveText.pairs? ((⟨Processor.all, m⟩ : ProcessorChain).redact context) .form =
      (SensitiveText.pairs? context .form).map
        (·.map (if takenForForm m context then redactPair m else id)) := by
  have htext := Fields.textAt?_eq_of_objectAt? (objectAt?_redact_request m context)
    (Fields.get?_map (redactRequestPart m (takenForForm m context)) "body")
    (if takenForForm m context then redactPairs m ['&'] else id) fun v => by
      cases takenForForm m context <;> cases v <;>
        simp [redactRequestPart, redactBodyValue, Json.str?]
  rw [SensitiveText.pairs?, SensitiveText.pairs?, htext, Option.map_map, Option.map_map]
  refine Option.map_congr fun s _ => ?_
  split
  · exact splitText_redactPairs m pairSeparator_ampersand s
  · simp

theorem withoutMark_of_head? {s : List Char} (h : s.head? ≠ some '?') : withoutMark s = s := by
  unfold withoutMark
  split
  · exact absurd rfl h
  · rfl

variable (m) in
theorem withoutMark_redactSearch (s : List Char) :
    withoutMark (redactSearch m s) = redactPairs m ['&'] (withoutMark s) := by
  by_cases hs : s.head? = some '?'
  · obtain ⟨query, rfl⟩ := List.head?_eq_some_iff.mp hs
    rfl
  · have halike : PairsAlike m ['&'] s (redactPairs m ['&'] s) :=
      pairsAlike_redactPairs m pairSeparator_ampersand s
    have hhead := halike.head?_eq pairSeparator_ampersand.ne_nil
    rw [redactSearch_of_head? hs, withoutMark_of_head? hs, withoutMark_of_head? (hhead ▸ hs)]

theorem redactSearch_of_not_mem {s : List Char} (h : '=' ∉ s) : redactSearch m s = s := by
  unfold redactSearch
  split
  · rw [redactPairs_of_not_mem m (by simp) fun hmem => h (by simp [hmem])]
  · exact redactPairs_of_not_mem m (by simp) h

variable (m) in
/-- The query string of a redacted address. -/
theorem get?_search_redactUrl (url : Fields) :
    Fields.get? "search" (redactUrl m url) =
      (url.get? "search").map (Json.mapText (redactSearch m)) := by
  cases hsearch : url.get? "search" with
  | none => simp [redactUrl, hsearch]
  | some v =>
    cases v with
    | str search =>
      by_cases hpairs : '=' ∈ search.toList
      · rw [redactUrl_of_search hsearch hpairs, Fields.get?_modify_self,
          Fields.get?_modify_of_ne (by decide), hsearch]
        rfl
      · have hsame : redactSearch m search.toList = search.toList := redactSearch_of_not_mem hpairs
        simp [redactUrl, hsearch, hpairs, Json.mapText, hsame]
    | _ => simp [redactUrl, hsearch, Json.mapText]

variable (m) in
/-- The pairs of the query string are redacted one by one. -/
theorem pairs?_redact_query (context : Fields) :
    SensitiveText.pairs? ((⟨Processor.all, m⟩ : ProcessorChain).redact context) .query =
      (SensitiveText.pairs? context .query).map (·.map (redactPair m)) := by
  have hurl : Fields.objectAt? ["request", "url"]
      ((⟨Processor.all, m⟩ : ProcessorChain).redact context) =
      (context.objectAt? ["request", "url"]).map (redactUrl m) :=
    objectAt?_redact_requestPart m context fun v => Json.fields?_mapFields _ v
  have htext := Fields.textAt?_eq_of_objectAt? hurl (get?_search_redactUrl m) (redactSearch m)
    fun v => by cases v <;> rfl
  rw [SensitiveText.pairs?, SensitiveText.pairs?, htext, Option.map_map, Option.map_map]
  refine Option.map_congr fun s _ => ?_
  simp only [Function.comp_apply, withoutMark_redactSearch]
  exact splitText_redactPairs m pairSeparator_ampersand _

/-! ### A longer list of names -/

/-- Every name that the one matcher fits, the other fits too. -/
def FieldMatcher.LE (m n : FieldMatcher) : Prop :=
  ∀ name, m.hits name = true → n.hits name = true

theorem FieldMatcher.LE.of_subset {P Q : List String} (h : ∀ p ∈ P, p ∈ Q) :
    (ofPatterns P).LE (ofPatterns Q) := by
  intro name hhits
  obtain ⟨p, hp, hfits⟩ := List.any_eq_true.mp hhits
  refine List.any_eq_true.mpr ⟨p, ?_, hfits⟩
  simp only [ofPatterns, List.mem_filter, List.mem_map] at hp ⊢
  obtain ⟨⟨q, hq, rfl⟩, hne⟩ := hp
  exact ⟨⟨q, h q hq, rfl⟩, hne⟩

/-- A pair that reads as redacted still does when more names are sensitive. -/
theorem pairValue?_redactPair_mono (hmn : m.LE n) {pair : List Char}
    (h : pairValue? (redactPair m pair) = some (.str redacted)) :
    pairValue? (redactPair n pair) = some (.str redacted) := by
  cases hsplit : splitOnce? '=' pair with
  | none => rwa [redactPair, hsplit] at h ⊢
  | some p =>
    obtain ⟨rfl, hkey⟩ := eq_of_splitOnce? hsplit
    cases hn : n.hits p.1 with
    | true =>
      rw [redactPair_of_hits n hkey hn, pairValue?, splitOnce?_append hkey]
      rfl
    | false =>
      have hm : m.hits p.1 = false := Bool.eq_false_iff.mpr fun hm => by simp [hmn _ hm] at hn
      rwa [redactPair_of_not_hits n hkey hn, ← redactPair_of_not_hits m hkey hm]

/-- Pairs that are redacted one by one, read at the same place. -/
theorem pairValue?_map_mono (hmn : m.LE n) {pairs : Option (List (List Char))} {index : Nat}
    (h : ((pairs.map (·.map (redactPair m))).bind (·[index]?)).bind pairValue? =
      some (.str redacted)) :
    ((pairs.map (·.map (redactPair n))).bind (·[index]?)).bind pairValue? =
      some (.str redacted) := by
  obtain ⟨p, hp, hvalue⟩ := Option.bind_eq_some_iff.mp h
  obtain ⟨ps, hps, hget⟩ := Option.bind_eq_some_iff.mp hp
  obtain ⟨qs, rfl, rfl⟩ := Option.map_eq_some_iff.mp hps
  rw [List.getElem?_map] at hget
  obtain ⟨q, hq, rfl⟩ := Option.map_eq_some_iff.mp hget
  simp [hq, pairValue?_redactPair_mono hmn hvalue]

/-- Pairs that read as redacted after redaction are no pairs. -/
theorem eq_redacted_of_redactPairs {s : List Char}
    (h : redactPairs m [';', ' '] s = redacted.toList) : s = redacted.toList := by
  have halike : PairsAlike m [';', ' '] s (redactPairs m [';', ' '] s) :=
    pairsAlike_redactPairs m pairSeparator_cookie s
  rw [h] at halike
  exact halike.eq_of_not_mem pairSeparator_cookie.ne_nil (by decide)

/-- A header that reads as redacted still does when more names are sensitive. -/
theorem redactHeader_mono (hmn : m.LE n) {name : String} {v : Json}
    (h : redactHeader m name v = .str redacted) : redactHeader n name v = .str redacted := by
  cases hn : n.hits name.toList with
  | true => rw [redactHeader, if_pos hn]
  | false =>
    have hm : m.hits name.toList = false := Bool.eq_false_iff.mpr fun hm => by simp [hmn _ hm] at hn
    rw [redactHeader, if_neg (by simp [hm])] at h
    rw [redactHeader, if_neg (by simp [hn])]
    split at h
    · cases v with
      | str s =>
        have hs : redactPairs m [';', ' '] s.toList = redacted.toList := by
          rw [← Json.str.inj h, String.toList_ofList]
        rw [if_pos ‹_›, Json.mapText, eq_redacted_of_redactPairs hs,
          redactPairs_of_not_mem n (by simp) (by decide), String.ofList_toList]
      | _ => exact absurd h (by simp [Json.mapText])
    · rwa [if_neg ‹_›]

theorem SensitiveObject.redactValue_mono (hmn : m.LE n) (object : SensitiveObject) {key : String}
    {v : Json} (h : object.redactValue m key v = .str redacted) :
    object.redactValue n key v = .str redacted := by
  cases object with
  | requestHeaders => exact redactHeader_mono hmn h
  | responseHeaders | cookies | body =>
    simp only [redactValue] at h ⊢
    split at h
    · rw [if_pos (hmn _ ‹_›)]
    · simp [h]

/-- A content type that can still be read could be read before. -/
theorem TellsForm.anti (hmn : m.LE n) {context : Fields} (h : TellsForm n context) :
    TellsForm m context := by
  obtain ⟨headers, name, value, hheaders, hmem, hname, hhits, hform⟩ := h
  refine ⟨headers, name, value, hheaders, hmem, hname, ?_, hform⟩
  exact Bool.eq_false_iff.mpr fun hm => by simp [hmn _ hm] at hhits

/-- What one matcher hides at a place of a context, a matcher of more names does not show. -/
theorem Place.value?_redact_mono (hmn : m.LE n) (place : Place) {context : Fields}
    (hform : ∀ index, place = .pair .form index → TellsForm m context → TellsForm n context)
    (h : place.value? ((⟨Processor.all, m⟩ : ProcessorChain).redact context) =
      some (.str redacted)) {v : Json}
    (hv : place.value? ((⟨Processor.all, n⟩ : ProcessorChain).redact context) = some v) :
    v = .str redacted := by
  cases place with
  | field object key =>
    simp only [value?, SensitiveObject.objectAt?_redact] at h hv
    cases hobject : context.objectAt? object.path with
    | none => simp [hobject] at h
    | some f =>
      simp only [hobject, Option.map_some, Option.bind_some, SensitiveObject.get?_redact] at h hv
      obtain ⟨w, hw, hmw⟩ := Option.map_eq_some_iff.mp h
      rw [hw, Option.map_some, object.redactValue_mono hmn hmw] at hv
      exact (Option.some.inj hv).symm
  | pair text index =>
    have hvalue (k : FieldMatcher) : (pair text index).value?
        ((⟨Processor.all, k⟩ : ProcessorChain).redact context) =
        ((text.pairs? ((⟨Processor.all, k⟩ : ProcessorChain).redact context)).bind
          (·[index]?)).bind pairValue? := rfl
    cases text with
    | cookieHeader name =>
      cases hn : n.hits name.toList with
      | true => simp [value?_redact_of_hits n hn] at hv
      | false =>
        have hm : m.hits name.toList = false :=
          Bool.eq_false_iff.mpr fun hm => by simp [hmn _ hm] at hn
        rw [hvalue, pairs?_redact_cookieHeader m hm] at h
        rw [hvalue, pairs?_redact_cookieHeader n hn, pairValue?_map_mono hmn h] at hv
        exact (Option.some.inj hv).symm
    | form =>
      rw [hvalue, pairs?_redact_form] at h hv
      by_cases hn : TellsForm n context
      · rw [if_pos ((takenForForm_iff m context).mpr (hn.anti hmn))] at h
        rw [if_pos ((takenForForm_iff n context).mpr hn), pairValue?_map_mono hmn h] at hv
        exact (Option.some.inj hv).symm
      · -- neither matcher lets the body be taken for a form
        have hm : ¬ TellsForm m context := fun hm => hn (hform index rfl hm)
        rw [if_neg fun hf => hm ((takenForForm_iff m context).mp hf)] at h
        rw [if_neg fun hf => hn ((takenForForm_iff n context).mp hf), h] at hv
        exact (Option.some.inj hv).symm
    | query =>
      rw [hvalue, pairs?_redact_query] at h hv
      rw [pairValue?_map_mono hmn h] at hv
      exact (Option.some.inj hv).symm

/-! ### Events -/

/-- **A longer list of sensitive names shows nothing that a shorter one hides**, provided that it
lets the content type of a form be read wherever the shorter one does. -/
theorem ProcessorChain.process_monotone {P Q : List String} (hPQ : ∀ p ∈ P, p ∈ Q) (e : Event)
    (place : Place)
    (hform : ∀ context index, e.context = some context → place = .pair .form index →
      TellsForm (.ofPatterns P) context → TellsForm (.ofPatterns Q) context)
    (h : ((ofPatterns Processor.all P).process e).valueAt? place = some (.str redacted)) (v : Json)
    (hv : ((ofPatterns Processor.all Q).process e).valueAt? place = some v) :
    v = .str redacted := by
  have hcontext (c : Option Fields) (hc : e.context = c)
      (h : (c.map (ofPatterns Processor.all P).redact).bind place.value? = some (.str redacted))
      (hv : (c.map (ofPatterns Processor.all Q).redact).bind place.value? = some v) :
      v = .str redacted := by
    obtain ⟨context, rfl⟩ : ∃ context, c = some context := by
      cases c with
      | none => simp at h
      | some context => exact ⟨context, rfl⟩
    exact place.value?_redact_mono (.of_subset hPQ) (fun index => hform context index hc) h hv
  cases e with
  | transaction r => exact hcontext r.context rfl h hv
  | span r => exact (Option.some.inj (h.symm.trans hv)).symm
  | error r => exact hcontext r.context rfl h hv

/-- A form with a password, sent with a token in the address. -/
def formContext : Fields :=
  [("request", .obj [
    ("body", .str "user=joe&password=hunter2"),
    ("headers", .obj [("content-type", .str formContentType)]),
    ("url", .obj [("search", .str "?token=abc")])])]

/-- A password in a form stays hidden when tokens are hidden too. -/
theorem ProcessorChain.process_monotone_token :
    ∃ v, ((ofPatterns Processor.all ["password", "token"]).process
        (.transaction { (default : TransactionRecord) with context := formContext })).valueAt?
          (.pair .form 1) = some v ∧ v = .str redacted := by
  have hpatterns : ∀ p ∈ ["password"], p ∈ ["password", "token"] := by simp
  have htells : TellsForm (.ofPatterns ["password", "token"]) formContext :=
    ⟨_, "content-type", formContentType, rfl, List.mem_cons_self, by decide, by decide, by decide⟩
  refine ⟨_, rfl, process_monotone hpatterns
    (.transaction { (default : TransactionRecord) with context := formContext }) (.pair .form 1)
    (fun context index hcontext _ _ => ?_) rfl _ rfl⟩
  exact Option.some.inj hcontext ▸ htells

/-- **Hiding the content type too shows a password that was hidden before.** -/
theorem ProcessorChain.not_process_monotone :
    ¬ ∀ P Q : List String, (∀ p ∈ P, p ∈ Q) → ∀ (e : Event) (place : Place),
      ((ofPatterns Processor.all P).process e).valueAt? place = some (.str redacted) →
      ∀ v, ((ofPatterns Processor.all Q).process e).valueAt? place = some v →
        v = .str redacted := by
  intro hmono
  have hshown : Json.str "hunter2" = .str redacted :=
    hmono ["password"] ["password", "content-type"] (by simp)
      (.transaction { (default : TransactionRecord) with context := formContext })
      (.pair .form 1) rfl _ rfl
  exact absurd (Json.str.inj hshown) (by decide)

end Telemetry
