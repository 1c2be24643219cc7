import Mathlib.Data.List.Forall2
import Telemetry.Event.Record
import Telemetry.Proofs.Redaction.Places

/-!
# Redaction hides what it redacts

Two events that differ only in sensitive values leave the usual chain as the same event: nobody who
reads what was sent can tell them apart. And nothing else is touched: an event differs from what
comes out in sensitive values alone, and in the full address, where the redacted query string is
written over the one that was there.

Both are statements about one relation, which says place by place where two contexts may differ. For
the query string there is one more condition when two events are compared. A full address that
spells out the query string is not cut into pairs, so what is hidden in the one could still be read
in the other.

## Main definitions

* `FieldAlike`, `HeaderAlike`, `PairsAlike`, `UrlAlike`: values that differ in what is sensitive.
* `ContextAlike`, `Event.Alike`: contexts and events that do.

## Main results

* `ContextAlike.redact_eq`: sensitive values have no influence on what comes out.
* `contextAlike_redact`: everything else comes out as it went in.
* `ProcessorChain.process_noninterference`: both of these, for events.
-/

namespace Telemetry

open Text

/-! ### Fields that are related key by key -/

/-- Fields with the same keys in the same order, whose values are related key by key. -/
def Fields.Alike (R : String → Json → Json → Prop) : Fields → Fields → Prop :=
  List.Forall₂ fun x y => x.1 = y.1 ∧ R x.1 x.2 y.2

namespace Fields

variable {R : String → Json → Json → Prop} {F : String → Json → Json} {f g : Fields}

/-- What depends on related values in the same way is the same. -/
theorem Alike.map_eq (hF : ∀ {key v w}, R key v w → F key v = F key w) (h : Alike R f g) :
    (f.map fun x => (x.1, F x.1 x.2)) = g.map fun x => (x.1, F x.1 x.2) := by
  induction h with
  | nil => rfl
  | @cons x y f g hxy _ ih =>
    obtain ⟨key, v⟩ := x
    obtain ⟨key', w⟩ := y
    obtain ⟨rfl, hR⟩ : key = key' ∧ R key v w := hxy
    rw [List.map_cons, List.map_cons, ih, hF hR]

/-- Values that are related to what becomes of them stay related. -/
theorem alike_map (hF : ∀ key v, R key v (F key v)) (f : Fields) :
    Alike R f (f.map fun x => (x.1, F x.1 x.2)) :=
  List.forall₂_map_right_iff.mpr (List.forall₂_same.mpr fun x _ => ⟨rfl, hF x.1 x.2⟩)

theorem Alike.get? (h : Alike R f g) (key : String) :
    Option.Rel (R key) (f.get? key) (g.get? key) := by
  induction h with
  | nil => exact .none
  | @cons x y f g hxy _ ih =>
    obtain ⟨k, v⟩ := x
    obtain ⟨k', w⟩ := y
    obtain ⟨rfl, hR⟩ : k = k' ∧ R k v w := hxy
    by_cases hk : k = key
    · subst hk
      simpa [Fields.get?] using Option.Rel.some hR
    · simpa [Fields.get?, hk] using ih

/-- Objects under a key are related if the values there are so related. -/
theorem Alike.object? {S : Fields → Fields → Prop} {key : String} (h : Alike R f g)
    (hR : ∀ {v w}, R key v w → Option.Rel S v.fields? w.fields?) :
    Option.Rel S ((f.get? key).bind Json.fields?) ((g.get? key).bind Json.fields?) := by
  have hget := h.get? key
  generalize f.get? key = x, g.get? key = y at hget
  cases hget with
  | none => exact .none
  | some hv => exact hR hv

theorem Alike.refl (hR : ∀ key v, R key v v) (f : Fields) : Alike R f f :=
  List.forall₂_same.mpr fun x _ => ⟨rfl, hR x.1 x.2⟩

end Fields

variable (m : FieldMatcher)

/-! ### Where values may differ -/

/-- Values under a key that are the same, unless the key is sensitive. -/
inductive FieldAlike (key : String) : Json → Json → Prop
  | same (v : Json) : FieldAlike key v v
  | hidden (h : m.hits key.toList = true) (v w : Json) : FieldAlike key v w

/-- Pairs that are the same, or have a sensitive key in common. The value is what follows the first
equals sign. -/
inductive PairAlike : List Char → List Char → Prop
  | same (pair : List Char) : PairAlike pair pair
  | hidden {key : List Char} (hkey : '=' ∉ key) (h : m.hits key = true) (v w : List Char) :
    PairAlike (key ++ '=' :: v) (key ++ '=' :: w)

/-- Texts of pairs that are alike one by one. -/
def PairsAlike (sep s t : List Char) : Prop :=
  List.Forall₂ (PairAlike m) (splitText sep s) (splitText sep t)

/-- Values of a request header: sensitive as a whole, or pair by pair in a cookie header. -/
inductive HeaderAlike (name : String) : Json → Json → Prop
  | field {v w : Json} (h : FieldAlike m name v w) : HeaderAlike name v w
  | cookie {s t : String} (hname : isHeaderNamed "cookie" name = true)
    (h : PairsAlike m [';', ' '] s.toList t.toList) : HeaderAlike name (.str s) (.str t)

/-- Query strings, of which a question mark at the front is no part. -/
inductive SearchAlike : List Char → List Char → Prop
  | marked {s t : List Char} (h : PairsAlike m ['&'] s t) : SearchAlike ('?' :: s) ('?' :: t)
  | plain {s t : List Char} (hs : s.head? ≠ some '?') (h : PairsAlike m ['&'] s t) :
    SearchAlike s t

/-- Addresses whose query strings have alike pairs, where the one query string takes the place of
the other in the full address too. A query string without an equals sign has nothing to hide. -/
def UrlAlike (f g : Fields) : Prop :=
  ∃ s t : String, f.get? "search" = some (.str s) ∧ '=' ∈ s.toList ∧
    SearchAlike m s.toList t.toList ∧
    g = (f.modify "full" (Json.mapText (replaceText s.toList t.toList))).modify "search"
      fun _ => .str t

/-- Addresses with alike query strings whose full address is not a text. -/
def UrlHidden (f g : Fields) : Prop :=
  UrlAlike m f g ∧ ∀ full, ("full", Json.str full) ∉ f

/-- Parts of a request. `form` says that the body is an encoded form, and `Url` how addresses may
differ. -/
inductive RequestPartAlike (form : Prop) (Url : Fields → Fields → Prop) :
    String → Json → Json → Prop
  | same (key : String) (v : Json) : RequestPartAlike form Url key v v
  | headers {f g : Fields} (h : Fields.Alike (HeaderAlike m) f g) :
    RequestPartAlike form Url "headers" (.obj f) (.obj g)
  | cookies {f g : Fields} (h : Fields.Alike (FieldAlike m) f g) :
    RequestPartAlike form Url "cookies" (.obj f) (.obj g)
  | body {f g : Fields} (h : Fields.Alike (FieldAlike m) f g) :
    RequestPartAlike form Url "body" (.obj f) (.obj g)
  | form {s t : String} (hform : form) (h : PairsAlike m ['&'] s.toList t.toList) :
    RequestPartAlike form Url "body" (.str s) (.str t)
  | url {f g : Fields} (h : Url f g) : RequestPartAlike form Url "url" (.obj f) (.obj g)

/-- Parts of a response: its headers may differ. -/
inductive ResponsePartAlike : String → Json → Json → Prop
  | same (key : String) (v : Json) : ResponsePartAlike key v v
  | headers {f g : Fields} (h : Fields.Alike (FieldAlike m) f g) :
    ResponsePartAlike "headers" (.obj f) (.obj g)

/-- Parts of a context: the request and the response may differ. -/
inductive ContextPartAlike (form : Prop) (Url : Fields → Fields → Prop) :
    String → Json → Json → Prop
  | same (key : String) (v : Json) : ContextPartAlike form Url key v v
  | request {f g : Fields} (h : Fields.Alike (RequestPartAlike m form Url) f g) :
    ContextPartAlike form Url "request" (.obj f) (.obj g)
  | response {f g : Fields} (h : Fields.Alike (ResponsePartAlike m) f g) :
    ContextPartAlike form Url "response" (.obj f) (.obj g)

/-- Contexts that differ in sensitive values only. -/
def ContextAlike (Url : Fields → Fields → Prop) (c d : Fields) : Prop :=
  Fields.Alike (ContextPartAlike m (TellsForm m c) Url) c d

/-- Events of one kind that agree in everything but their contexts, and whose contexts are
related. -/
inductive Event.Alike (R : Fields → Fields → Prop) : Event → Event → Prop
  | transaction (r : TransactionRecord) {c d : Option Fields} (h : Option.Rel R c d) :
    Alike R (.transaction { r with context := c }) (.transaction { r with context := d })
  | span (r : SpanRecord) : Alike R (.span r) (.span r)
  | error (r : ErrorRecord) {c d : Option Fields} (h : Option.Rel R c d) :
    Alike R (.error { r with context := c }) (.error { r with context := d })

/-! ### Sensitive values have no influence -/

variable {m} {key name : String} {v w : Json} {f g : Fields} {sep s t : List Char} {form : Bool}

theorem FieldAlike.eq_of_redacted (h : FieldAlike m key v w) :
    (if m.hits key.toList then Json.str redacted else v) =
      if m.hits key.toList then .str redacted else w := by
  cases h with
  | same => rfl
  | hidden hhits => rw [if_pos hhits, if_pos hhits]

theorem redactFields_eq_of_alike (h : Fields.Alike (FieldAlike m) f g) :
    redactFields m f = redactFields m g := by
  rw [redactFields_eq_map, redactFields_eq_map]
  exact h.map_eq (F := fun key v => if m.hits key.toList then .str redacted else v)
    FieldAlike.eq_of_redacted

theorem PairAlike.redact_eq {p q : List Char} (h : PairAlike m p q) :
    redactPair m p = redactPair m q := by
  cases h with
  | same => rfl
  | hidden hkey hhits => rw [redactPair_of_hits m hkey hhits, redactPair_of_hits m hkey hhits]

theorem PairsAlike.redact_eq (h : PairsAlike m sep s t) :
    redactPairs m sep s = redactPairs m sep t := by
  have hpieces : (splitText sep s).map (redactPair m) = (splitText sep t).map (redactPair m) := by
    rw [PairsAlike] at h
    generalize splitText sep s = ps, splitText sep t = qs at h
    induction h with
    | nil => rfl
    | cons hp _ ih => rw [List.map_cons, List.map_cons, hp.redact_eq, ih]
  rw [redactPairs, redactPairs, hpieces]

theorem HeaderAlike.redact_eq (h : HeaderAlike m name v w) :
    redactHeader m name v = redactHeader m name w := by
  cases h with
  | field h =>
    cases h with
    | same => rfl
    | hidden hhits => rw [redactHeader, redactHeader, if_pos hhits, if_pos hhits]
  | cookie hname h =>
    simp only [redactHeader, hname, if_true, Json.mapText, h.redact_eq]

theorem redactHeaders_eq_of_alike (h : Fields.Alike (HeaderAlike m) f g) :
    (redactCookieHeader m ∘ redactFields m) f = (redactCookieHeader m ∘ redactFields m) g := by
  simp only [Function.comp_apply, redactCookieHeader_redactFields]
  exact h.map_eq HeaderAlike.redact_eq

/-- Alike pairs begin with the same character. -/
theorem PairsAlike.head?_eq (hsep : sep ≠ []) (h : PairsAlike m sep s t) : s.head? = t.head? := by
  have hpair {p q : List Char} (h : PairAlike m p q) : p.head? = q.head? := by
    cases h with
    | same => rfl
    | hidden => simp [List.head?_append]
  rw [← intercalate_splitText hsep s, ← intercalate_splitText hsep t]
  obtain ⟨c, rest, rfl⟩ := List.exists_cons_of_ne_nil hsep
  rw [PairsAlike] at h
  generalize splitText (c :: rest) s = ps, splitText (c :: rest) t = qs at h
  cases h with
  | nil => rfl
  | cons hp hrest =>
    cases hrest with
    | nil => simpa using hpair hp
    | cons hq hrest => simp [List.intercalate_cons_cons, List.head?_append, hpair hp]

theorem redactSearch_of_head? (h : s.head? ≠ some '?') :
    redactSearch m s = redactPairs m ['&'] s := by
  unfold redactSearch
  split
  · exact absurd rfl h
  · rfl

theorem SearchAlike.redact_eq (h : SearchAlike m s t) : redactSearch m s = redactSearch m t := by
  cases h with
  | marked h => exact congrArg (List.cons '?') h.redact_eq
  | plain hs h =>
    have ht : t.head? ≠ some '?' := (h.head?_eq (by simp)) ▸ hs
    rw [redactSearch_of_head? hs, redactSearch_of_head? ht, h.redact_eq]

theorem mapText_eq_of_not_str {F : List Char → List Char} (h : ∀ s, v ≠ .str s) :
    v.mapText F = v := by
  cases v with
  | str s => exact absurd rfl (h s)
  | _ => rfl

theorem modify_full_of_not_text (F : List Char → List Char)
    (h : ∀ full, ("full", Json.str full) ∉ f) : f.modify "full" (Json.mapText F) = f := by
  rw [Fields.modify_eq_map]
  refine (List.map_congr_left fun x hx => ?_).trans (List.map_id f)
  obtain ⟨k, v⟩ := x
  by_cases hk : k = "full"
  · subst hk
    have hv : ∀ s, v ≠ .str s := fun s hs => h s (hs ▸ hx)
    simp [mapText_eq_of_not_str hv]
  · simp [hk]

/-- The address in which both query strings, the one of its own and the one in the full address, are
exchanged for redacted ones. -/
theorem redactUrl_of_search {url : Fields} {search : String}
    (hsearch : url.get? "search" = some (.str search)) (hpairs : '=' ∈ search.toList) :
    redactUrl m url =
      (url.modify "full" (Json.mapText (replaceText search.toList
        (redactSearch m search.toList)))).modify "search"
          fun _ => .str (String.ofList (redactSearch m search.toList)) := by
  simp only [redactUrl, hsearch, List.contains_iff_mem, hpairs, if_true]
  refine congrArg (Fields.modify "search" _) (congrArg (Fields.modify "full" · url) ?_)
  funext v
  cases v <;> rfl

/-- Where there is no equals sign, there is nothing that may differ. -/
theorem PairsAlike.eq_of_not_mem (hsep : sep ≠ []) (h : PairsAlike m sep s t) (ht : '=' ∉ t) :
    s = t := by
  have hpieces : ∀ q ∈ splitText sep t, '=' ∉ q :=
    fun q hq hmem => ht (subset_of_mem_splitText hsep hq hmem)
  rw [← intercalate_splitText hsep s, ← intercalate_splitText hsep t]
  refine congrArg (List.intercalate sep) ?_
  rw [PairsAlike] at h
  generalize splitText sep s = ps, splitText sep t = qs at h hpieces
  induction h with
  | nil => rfl
  | cons hp _ ih =>
    rw [ih fun q hq => hpieces q (List.mem_cons_of_mem _ hq)]
    cases hp with
    | same => rfl
    | hidden => exact absurd (by simp) (hpieces _ List.mem_cons_self)

theorem SearchAlike.mem (h : SearchAlike m s t) (hs : '=' ∈ s) : '=' ∈ t := by
  by_contra ht
  cases h with
  | marked h => exact ht (h.eq_of_not_mem (by simp) (fun hmem => ht (by simp [hmem])) ▸ hs)
  | plain _ h => exact ht (h.eq_of_not_mem (by simp) ht ▸ hs)

theorem modify_search_full {F : Json → Json} (h : ∀ full, ("full", Json.str full) ∉ f) :
    ∀ full, ("full", Json.str full) ∉ f.modify "search" F := by
  intro full hmem
  rw [Fields.modify_eq_map, List.mem_map] at hmem
  obtain ⟨⟨k, v⟩, hx, heq⟩ := hmem
  obtain ⟨rfl, hv⟩ := Prod.mk.inj heq
  have hk : ("full" : String) ≠ "search" := by decide
  rw [if_neg hk] at hv
  exact h full (hv ▸ hx)

theorem UrlHidden.redact_eq (h : UrlHidden m f g) : redactUrl m f = redactUrl m g := by
  obtain ⟨⟨s, t, hsearch, hpairs, halike, rfl⟩, hfull⟩ := h
  rw [modify_full_of_not_text _ hfull]
  have hsearch' : (f.modify "search" fun _ => .str t).get? "search" = some (.str t) := by
    rw [Fields.get?_modify_self, hsearch]
    rfl
  rw [redactUrl_of_search hsearch hpairs, redactUrl_of_search hsearch' (halike.mem hpairs),
    modify_full_of_not_text _ hfull, modify_full_of_not_text _ (modify_search_full hfull),
    Fields.modify_modify_self, halike.redact_eq]
  rfl

theorem RequestPartAlike.redact_eq {P : Prop} (hform : P → form = true)
    (h : RequestPartAlike m P (UrlHidden m) key v w) :
    redactRequestPart m form key v = redactRequestPart m form key w := by
  cases h with
  | same => rfl
  | headers h => simpa [redactRequestPart, Json.mapFields] using redactHeaders_eq_of_alike h
  | cookies h => simpa [redactRequestPart, Json.mapFields] using redactFields_eq_of_alike h
  | body h => simpa [redactRequestPart, redactBodyValue] using redactFields_eq_of_alike h
  | form hP h => simp [redactRequestPart, redactBodyValue, hform hP, h.redact_eq]
  | url h => simpa [redactRequestPart, Json.mapFields] using h.redact_eq

theorem redactResponse_eq_of_alike (h : Fields.Alike (ResponsePartAlike m) f g) :
    f.modifyObject "headers" (redactFields m) = g.modifyObject "headers" (redactFields m) := by
  rw [Fields.modifyObject_eq, Fields.modifyObject_eq, Fields.modify_eq_map, Fields.modify_eq_map]
  refine h.map_eq (F := fun key v =>
    if key = "headers" then v.mapFields (redactFields m) else v) fun hpart => ?_
  cases hpart with
  | same => rfl
  | headers h => simpa [Json.mapFields] using redactFields_eq_of_alike h

theorem ContextPartAlike.redact_eq {P : Prop} (hform : P → form = true)
    (h : ContextPartAlike m P (UrlHidden m) key v w) :
    redactPart m form key v = redactPart m form key w := by
  cases h with
  | same => rfl
  | request h =>
    have heq := h.map_eq (F := redactRequestPart m form) (RequestPartAlike.redact_eq hform)
    simpa [redactPart, Json.mapFields] using heq
  | response h => simpa [redactPart, Json.mapFields] using redactResponse_eq_of_alike h

theorem RequestPartAlike.fields?_headers {P : Prop} {Url : Fields → Fields → Prop}
    (h : RequestPartAlike m P Url key v w) (hkey : key = "headers") :
    Option.Rel (Fields.Alike (HeaderAlike m)) v.fields? w.fields? := by
  cases h with
  | same =>
    cases v with
    | obj f => exact .some (Fields.Alike.refl (fun _ v => .field (.same v)) f)
    | _ => exact .none
  | headers h => exact .some h
  | form => exact .none
  | cookies | body | url => exact absurd hkey (by decide)

theorem ContextPartAlike.fields?_request {P : Prop} {Url : Fields → Fields → Prop}
    (h : ContextPartAlike m P Url key v w) (hkey : key = "request") :
    Option.Rel (Fields.Alike (RequestPartAlike m P Url)) v.fields? w.fields? := by
  cases h with
  | same =>
    cases v with
    | obj f => exact .some (Fields.Alike.refl .same f)
    | _ => exact .none
  | request h => exact .some h
  | response => exact absurd hkey (by decide)

/-- Alike contexts agree on whether the body is a form: the content type that says so is not
sensitive. -/
theorem ContextAlike.takenForForm_eq {Url : Fields → Fields → Prop} {c d : Fields}
    (h : ContextAlike m Url c d) : takenForForm m c = takenForForm m d := by
  have hrequest := h.object? (ContextPartAlike.fields?_request · rfl)
  rw [takenForForm, takenForForm, Fields.objectAt?, Fields.objectAt?]
  generalize (c.get? "request").bind Json.fields? = x,
    (d.get? "request").bind Json.fields? = y at hrequest
  cases hrequest with
  | none => rfl
  | @some f g hfg =>
    have hheaders := hfg.object? (RequestPartAlike.fields?_headers · rfl)
    simp only [Option.bind_some, Fields.objectAt?]
    generalize (f.get? "headers").bind Json.fields? = x,
      (g.get? "headers").bind Json.fields? = y at hheaders
    cases hheaders with
    | none => rfl
    | some hxy =>
      have heq := congrArg saysForm (redactHeaders_eq_of_alike hxy)
      simpa [Fields.objectAt?] using heq

/-- **Sensitive values have no influence on what comes out.** -/
theorem ContextAlike.redact_eq {c d : Fields} (h : ContextAlike m (UrlHidden m) c d) :
    (⟨Processor.all, m⟩ : ProcessorChain).redact c =
      (⟨Processor.all, m⟩ : ProcessorChain).redact d := by
  rw [ProcessorChain.redact_all_eq_map, ProcessorChain.redact_all_eq_map, ← h.takenForForm_eq]
  exact h.map_eq (F := redactPart m (takenForForm m c))
    (ContextPartAlike.redact_eq (takenForForm_iff m c).mpr)

/-! ### Everything else stays -/

variable (m)

theorem fieldAlike_redacted (key : String) (v : Json) :
    FieldAlike m key v (if m.hits key.toList then .str redacted else v) := by
  split
  · exact .hidden ‹_› _ _
  · exact .same v

theorem fieldsAlike_redactFields (f : Fields) :
    Fields.Alike (FieldAlike m) f (redactFields m f) := by
  rw [redactFields_eq_map]
  exact Fields.alike_map (fieldAlike_redacted m) f

theorem pairAlike_redactPair (pair : List Char) : PairAlike m pair (redactPair m pair) := by
  rcases redactPair_cases m pair with h | ⟨key, value, hkey, hhits, rfl, h⟩
  · rw [h]
    exact .same pair
  · rw [h]
    exact .hidden hkey hhits _ _

theorem pairsAlike_redactPairs (hsep : PairSeparator sep) (s : List Char) :
    PairsAlike m sep s (redactPairs m sep s) := by
  rw [PairsAlike, splitText_redactPairs m hsep]
  exact List.forall₂_map_right_iff.mpr (List.forall₂_same.mpr fun p _ => pairAlike_redactPair m p)

theorem headerAlike_redactHeader (name : String) (v : Json) :
    HeaderAlike m name v (redactHeader m name v) := by
  rw [redactHeader]
  split
  · exact .field (.hidden ‹_› _ _)
  · split
    · cases v with
      | str s =>
        refine .cookie ‹_› ?_
        rw [String.toList_ofList]
        exact pairsAlike_redactPairs m pairSeparator_cookie _
      | _ => exact .field (.same _)
    · exact .field (.same v)

theorem headersAlike_redactHeaders (f : Fields) :
    Fields.Alike (HeaderAlike m) f ((redactCookieHeader m ∘ redactFields m) f) := by
  rw [Function.comp_apply, redactCookieHeader_redactFields]
  exact Fields.alike_map (headerAlike_redactHeader m) f

theorem searchAlike_redactSearch (s : List Char) : SearchAlike m s (redactSearch m s) := by
  by_cases hs : s.head? = some '?'
  · obtain ⟨query, rfl⟩ := List.head?_eq_some_iff.mp hs
    exact .marked (pairsAlike_redactPairs m pairSeparator_ampersand query)
  · rw [redactSearch_of_head? hs]
    exact .plain hs (pairsAlike_redactPairs m pairSeparator_ampersand s)

/-- An address stays, or comes out with alike query strings. -/
theorem redactUrl_cases (url : Fields) :
    redactUrl m url = url ∨ UrlAlike m url (redactUrl m url) := by
  cases hsearch : url.get? "search" with
  | none => exact .inl (by simp [redactUrl, hsearch])
  | some v =>
    cases v with
    | str search =>
      by_cases hpairs : '=' ∈ search.toList
      · refine .inr ⟨search, String.ofList (redactSearch m search.toList), hsearch, hpairs, ?_, ?_⟩
        · rw [String.toList_ofList]
          exact searchAlike_redactSearch m _
        · rw [redactUrl_of_search hsearch hpairs, String.toList_ofList]
      · exact .inl (by simp [redactUrl, hsearch, hpairs])
    | _ => exact .inl (by simp [redactUrl, hsearch])

theorem requestPartAlike_redactRequestPart {P : Prop} (hform : form = true → P) (key : String)
    (v : Json) :
    RequestPartAlike m P (UrlAlike m) key v (redactRequestPart m form key v) := by
  rw [redactRequestPart]
  split_ifs with hheaders hcookies hbody hurl
  · subst hheaders
    cases v with
    | obj f => exact .headers (headersAlike_redactHeaders m f)
    | _ => exact .same _ _
  · subst hcookies
    cases v with
    | obj f => exact .cookies (fieldsAlike_redactFields m f)
    | _ => exact .same _ _
  · subst hbody
    cases v with
    | obj f => exact .body (fieldsAlike_redactFields m f)
    | str s =>
      cases form with
      | false => exact .same _ _
      | true =>
        refine .form (hform rfl) ?_
        rw [if_pos rfl, String.toList_ofList]
        exact pairsAlike_redactPairs m pairSeparator_ampersand _
    | _ => exact .same _ _
  · subst hurl
    cases v with
    | obj f =>
      rcases redactUrl_cases m f with heq | halike
      · rw [Json.mapFields, heq]
        exact .same _ _
      · exact .url halike
    | _ => exact .same _ _
  · exact .same key v

theorem responsePartAlike_redactHeaders (key : String) (v : Json) :
    ResponsePartAlike m key v (if key = "headers" then v.mapFields (redactFields m) else v) := by
  split
  · subst key
    cases v with
    | obj f => exact .headers (fieldsAlike_redactFields m f)
    | _ => exact .same _ _
  · exact .same key v

theorem contextPartAlike_redactPart {P : Prop} (hform : form = true → P) (key : String) (v : Json) :
    ContextPartAlike m P (UrlAlike m) key v (redactPart m form key v) := by
  rw [redactPart]
  split_ifs with hrequest hresponse
  · subst key
    cases v with
    | obj f => exact .request (Fields.alike_map (requestPartAlike_redactRequestPart m hform) f)
    | _ => exact .same _ _
  · subst key
    cases v with
    | obj f =>
      refine .response ?_
      have hheaders := Fields.alike_map (responsePartAlike_redactHeaders m) f
      rwa [← Fields.modify_eq_map, ← Fields.modifyObject_eq] at hheaders
    | _ => exact .same _ _
  · exact .same key v

/-- **What is not sensitive comes out as it went in.** -/
theorem contextAlike_redact (c : Fields) :
    ContextAlike m (UrlAlike m) c ((⟨Processor.all, m⟩ : ProcessorChain).redact c) := by
  rw [ProcessorChain.redact_all_eq_map]
  exact Fields.alike_map (contextPartAlike_redactPart m (takenForForm_iff m c).mp) c

/-! ### Events -/

/-- **Sensitive values do not influence what is sent, and nothing else is changed.** -/
theorem ProcessorChain.process_noninterference :
    (∀ e e' : Event, e.Alike (ContextAlike m (UrlHidden m)) e' →
      (⟨Processor.all, m⟩ : ProcessorChain).process e =
        (⟨Processor.all, m⟩ : ProcessorChain).process e') ∧
    ∀ e : Event, e.Alike (ContextAlike m (UrlAlike m))
      ((⟨Processor.all, m⟩ : ProcessorChain).process e) := by
  have hcontexts {c d : Option Fields} (h : Option.Rel (ContextAlike m (UrlHidden m)) c d) :
      c.map (⟨Processor.all, m⟩ : ProcessorChain).redact =
        d.map (⟨Processor.all, m⟩ : ProcessorChain).redact := by
    cases h with
    | none => rfl
    | some h => exact congrArg some h.redact_eq
  have hkept (c : Option Fields) :
      Option.Rel (ContextAlike m (UrlAlike m)) c
        (c.map (⟨Processor.all, m⟩ : ProcessorChain).redact) := by
    cases c with
    | none => exact .none
    | some c => exact .some (contextAlike_redact m c)
  constructor
  · intro e e' h
    cases h with
    | transaction r h => simp only [process, hcontexts h]
    | span r => rfl
    | error r h => simp only [process, hcontexts h]
  · intro e
    cases e with
    | transaction r => exact .transaction r (hkept r.context)
    | span r => exact .span r
    | error r => exact .error r (hkept r.context)

/-- A login form that was sent with a password. -/
def loginContext (password : String) : Fields :=
  [("request", .obj [
    ("body", .str ("user=joe&password=" ++ password)),
    ("headers", .obj [("content-type", .str formContentType)])])]

/-- Logins with two passwords are sent as the same transaction. -/
theorem ProcessorChain.process_login_eq :
    (ofPatterns Processor.all ["password"]).process
        (.transaction { (default : TransactionRecord) with context := loginContext "hunter2" }) =
      (ofPatterns Processor.all ["password"]).process
        (.transaction { (default : TransactionRecord) with context := loginContext "secret" }) := by
  have hform : TellsForm (.ofPatterns ["password"]) (loginContext "hunter2") :=
    ⟨_, "content-type", formContentType, rfl, List.mem_cons_self, by decide, by decide, by decide⟩
  have hpairs : PairsAlike (.ofPatterns ["password"]) ['&'] "user=joe&password=hunter2".toList
      "user=joe&password=secret".toList :=
    .cons (.same _) (.cons (.hidden (show '=' ∉ "password".toList by decide) (by decide)
      "hunter2".toList "secret".toList) .nil)
  exact (process_noninterference _).1 _ _ (.transaction _ (.some
    (.cons ⟨rfl, .request (.cons ⟨rfl, .form hform hpairs⟩ (.cons ⟨rfl, .same _ _⟩ .nil))⟩ .nil)))

end Telemetry
