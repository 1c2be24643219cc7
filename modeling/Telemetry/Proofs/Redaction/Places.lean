import Mathlib.Logic.Function.Basic
import Telemetry.Proofs.Text.Pieces
import Telemetry.Redaction.Processor

/-!
# Redaction, place by place

The processors of the usual chain run one after the other over the same context, and two of them
over the same headers. What comes out can be said without an order of steps: each place of the
context is changed once, by a function of its own. The places hang together at one point only.
Whether the body is taken for a form is read off the headers, and these were redacted before: what
counts is a content type whose own name is not sensitive.

## Main definitions

* `Json.mapFields`, `Json.mapText`: changing what is in an object, or a text.
* `PairSeparator`: separators that redaction neither makes nor breaks.
* `redactHeader`, `redactRequestPart`, `redactPart`: each place changed once.
* `TellsForm`: the headers say that the body is an encoded form, and may be believed.

## Main results

* `splitText_redactPairs`: the pairs of a text are redacted one by one.
* `ProcessorChain.redact_all`, `ProcessorChain.redact_all_eq_map`: the usual chain, place by place.
* `takenForForm_iff`: which content types count.
-/

namespace Telemetry

open Text

/-! ### Changing the value under a key -/

namespace Fields

variable {key other : String} {f g : Json → Json}

theorem get?_map (f : String → Json → Json) (key : String) (fields : Fields) :
    Fields.get? key (fields.map fun x => (x.1, f x.1 x.2)) = (fields.get? key).map (f key) := by
  induction fields with
  | nil => rfl
  | cons x rest ih =>
    simp only [List.map_cons, get?]
    by_cases hk : x.1 = key
    · simp [hk]
    · simpa [hk] using ih

theorem modify_eq_map (key : String) (f : Json → Json) (fields : Fields) :
    fields.modify key f = fields.map fun x => (x.1, if x.1 = key then f x.2 else x.2) := by
  refine List.map_congr_left fun x _ => ?_
  obtain ⟨k, v⟩ := x
  by_cases hk : k = key <;> simp [hk]

@[simp] theorem get?_modify_self (key : String) (f : Json → Json) (fields : Fields) :
    (fields.modify key f).get? key = (fields.get? key).map f := by
  rw [modify_eq_map, get?_map fun k v => if k = key then f v else v]
  simp

theorem get?_modify_of_ne (h : other ≠ key) (f : Json → Json) (fields : Fields) :
    (fields.modify key f).get? other = fields.get? other := by
  rw [modify_eq_map, get?_map fun k v => if k = key then f v else v]
  simp [h]

theorem modify_modify_self (key : String) (f g : Json → Json) (fields : Fields) :
    (fields.modify key f).modify key g = fields.modify key (g ∘ f) := by
  simp only [modify_eq_map, List.map_map]
  refine List.map_congr_left fun x _ => ?_
  by_cases hk : x.1 = key <;> simp [hk]

theorem modify_comm (h : key ≠ other) (f g : Json → Json) (fields : Fields) :
    (fields.modify key f).modify other g = (fields.modify other g).modify key f := by
  simp only [modify_eq_map, List.map_map]
  refine List.map_congr_left fun x _ => ?_
  by_cases hk : x.1 = key
  · simp [hk, h]
  · simp [hk]

end Fields

namespace Json

/-- A value with the fields of an object changed; one of another kind stays. -/
def mapFields (f : Fields → Fields) : Json → Json
  | .obj fields => .obj (f fields)
  | v => v

/-- A value with a text changed; one of another kind stays. -/
def mapText (f : List Char → List Char) : Json → Json
  | .str s => .str (String.ofList (f s.toList))
  | v => v

theorem mapFields_comp (f g : Fields → Fields) :
    mapFields g ∘ mapFields f = mapFields (g ∘ f) := by
  funext v
  cases v <;> rfl

@[simp] theorem fields?_mapFields (f : Fields → Fields) (v : Json) :
    (v.mapFields f).fields? = v.fields?.map f := by
  cases v <;> rfl

end Json

theorem Fields.modifyObject_eq (key : String) (f : Fields → Fields) (fields : Fields) :
    fields.modifyObject key f = fields.modify key (Json.mapFields f) := by
  refine congrArg (fields.modify key) (funext fun v => ?_)
  cases v <;> rfl

theorem Fields.modifyObject_modifyObject_self (key : String) (f g : Fields → Fields)
    (fields : Fields) :
    (fields.modifyObject key f).modifyObject key g = fields.modifyObject key (g ∘ f) := by
  simp only [modifyObject_eq, modify_modify_self, Json.mapFields_comp]

theorem Fields.modifyObject_comm {key other : String} (h : key ≠ other) (f g : Fields → Fields)
    (fields : Fields) :
    (fields.modifyObject key f).modifyObject other g =
      (fields.modifyObject other g).modifyObject key f := by
  simp only [modifyObject_eq, modify_comm h]

/-! ### Objects at the end of a path -/

theorem Fields.objectAt?_modifyObject (key : String) (path : List String) (f : Fields → Fields)
    (fields : Fields) :
    (fields.modifyObject key f).objectAt? (key :: path) =
      (((fields.get? key).bind Json.fields?).map f).bind (objectAt? path) := by
  rw [objectAt?, modifyObject_eq, get?_modify_self]
  cases fields.get? key <;> simp

theorem Fields.objectAt?_modifyObject_of_ne {key other : String} (h : other ≠ key)
    (path : List String) (f : Fields → Fields) (fields : Fields) :
    (fields.modifyObject key f).objectAt? (other :: path) = fields.objectAt? (other :: path) := by
  rw [objectAt?, modifyObject_eq, get?_modify_of_ne h, objectAt?]

theorem Fields.objectAt?_pair (key key' : String) (f : Fields) :
    objectAt? [key, key'] f = (objectAt? [key] f).bind (objectAt? [key']) := by
  rw [objectAt?, objectAt?]
  cases (f.get? key).bind Json.fields? <;> rfl

/-- The object under a key after each value was changed on its own. -/
theorem Fields.objectAt?_map {F : String → Json → Json} {G : Fields → Fields} {key : String}
    (hG : ∀ v, (F key v).fields? = v.fields?.map G) (f : Fields) :
    objectAt? [key] (f.map fun x => (x.1, F x.1 x.2)) = (objectAt? [key] f).map G := by
  rw [objectAt?, get?_map, objectAt?]
  cases f.get? key with
  | none => rfl
  | some v => cases hv : v.fields? <;> simp [hG, hv, objectAt?]

/-! ### Pairs -/

variable (m : FieldMatcher)

/-- Separators that a redacted value neither has in it nor completes. -/
structure PairSeparator (sep : List Char) : Prop where
  ne_nil : sep ≠ []
  unbordered : Unbordered sep
  apart : ∀ c ∈ sep, c ∉ '=' :: redacted.toList

theorem pairSeparator_ampersand : PairSeparator ['&'] where
  ne_nil := by simp
  unbordered := by
    intro a u hsplit ha _
    obtain ⟨c, a, rfl⟩ := List.exists_cons_of_ne_nil ha
    simp only [List.cons_append, List.cons.injEq, List.nil_eq, List.append_eq_nil_iff] at hsplit
    exact hsplit.2.2
  apart := by
    rw [List.forall_mem_singleton]
    decide

theorem pairSeparator_cookie : PairSeparator [';', ' '] where
  ne_nil := by simp
  unbordered := by
    intro a u hsplit ha hu
    obtain ⟨c, a, rfl⟩ := List.exists_cons_of_ne_nil ha
    simp only [List.cons_append, List.cons.injEq] at hsplit
    rcases List.append_eq_singleton_iff.mp hsplit.2.symm with ⟨-, rfl⟩ | ⟨-, rfl⟩
    · exact absurd hu (by decide)
    · rfl
  apart := by
    rw [List.forall_mem_cons, List.forall_mem_singleton]
    decide

/-- A text is a pair in one way only, if its key ends at the first equals sign. -/
theorem pair_inj {key key' value value' : List Char} (hkey : '=' ∉ key) (hkey' : '=' ∉ key')
    (h : key ++ '=' :: value = key' ++ '=' :: value') : key = key' ∧ value = value' := by
  have hsplit := splitOnce?_append hkey value
  rw [h, splitOnce?_append hkey', Option.some.injEq, Prod.mk.injEq] at hsplit
  exact ⟨hsplit.1.symm, hsplit.2.symm⟩

theorem redactPair_of_hits {key : List Char} (hkey : '=' ∉ key) (h : m.hits key = true)
    (value : List Char) : redactPair m (key ++ '=' :: value) = key ++ '=' :: redacted.toList := by
  rw [redactPair, splitOnce?_append hkey]
  exact if_pos h

theorem redactPair_of_not_hits {key : List Char} (hkey : '=' ∉ key) (h : m.hits key = false)
    (value : List Char) : redactPair m (key ++ '=' :: value) = key ++ '=' :: value := by
  rw [redactPair, splitOnce?_append hkey]
  simp [h]

theorem redactPair_of_not_mem {pair : List Char} (h : '=' ∉ pair) : redactPair m pair = pair := by
  rw [redactPair, splitOnce?_eq_none_iff.mpr h]

/-- A pair stays, or has a sensitive key and loses its value. -/
theorem redactPair_cases (pair : List Char) :
    redactPair m pair = pair ∨ ∃ key value, '=' ∉ key ∧ m.hits key = true ∧
      pair = key ++ '=' :: value ∧ redactPair m pair = key ++ '=' :: redacted.toList := by
  cases hsplit : splitOnce? '=' pair with
  | none => exact .inl (redactPair_of_not_mem m (splitOnce?_eq_none_iff.mp hsplit))
  | some p =>
    obtain ⟨rfl, hkey⟩ := eq_of_splitOnce? hsplit
    cases hhits : m.hits p.1 with
    | false => exact .inl (redactPair_of_not_hits m hkey hhits p.2)
    | true => exact .inr ⟨p.1, p.2, hkey, hhits, rfl, redactPair_of_hits m hkey hhits p.2⟩

/-- A text that has nothing in common with what follows is found in what comes before. -/
theorem infix_of_infix_append {a b sep : List Char} (hne : sep ≠ [])
    (hapart : ∀ c ∈ sep, c ∉ b) (h : sep <:+: a ++ b) : sep <:+: a := by
  obtain ⟨x, y, hxy⟩ := h
  rcases List.append_eq_append_iff.mp hxy with ⟨w, ha, -⟩ | ⟨w, ha, hb⟩
  · exact ⟨x, w, ha.symm⟩
  · rcases List.eq_nil_or_concat w with rfl | ⟨w, c, rfl⟩
    · exact ⟨x, [], by simpa using ha⟩
    · -- the last character of the separator would be one of the text after
      obtain ⟨sep, d, rfl⟩ := (List.eq_nil_or_concat sep).resolve_left hne
      obtain rfl : d = c := by
        have hlast := congrArg List.getLast? ha
        simpa using hlast
      exact absurd (by simp [hb]) (hapart d (by simp))

variable {m} in
theorem PairSeparator.not_infix_redactPair {sep pair : List Char} (hsep : PairSeparator sep)
    (h : ¬ sep <:+: pair) : ¬ sep <:+: redactPair m pair := by
  rcases redactPair_cases m pair with heq | ⟨key, value, -, -, rfl, heq⟩
  · rwa [heq]
  · rw [heq]
    intro hinfix
    have hkey : sep <:+: key := infix_of_infix_append hsep.ne_nil hsep.apart hinfix
    exact h (hkey.trans (List.prefix_append _ _).isInfix)

/-- **The pairs of a text are redacted one by one**, and nothing else in it changes. -/
theorem splitText_redactPairs {sep : List Char} (hsep : PairSeparator sep) (s : List Char) :
    splitText sep (redactPairs m sep s) = (splitText sep s).map (redactPair m) := by
  refine splitText_intercalate hsep.ne_nil hsep.unbordered (fun p hp => ?_)
    (by simpa using splitText_ne_nil hsep.ne_nil s)
  obtain ⟨q, hq, rfl⟩ := List.mem_map.mp hp
  exact hsep.not_infix_redactPair (not_infix_of_mem_splitText hsep.ne_nil hq)

/-- A text without an equals sign has no pairs. -/
theorem redactPairs_of_not_mem {sep s : List Char} (hsep : sep ≠ []) (h : '=' ∉ s) :
    redactPairs m sep s = s := by
  have hpieces : (splitText sep s).map (redactPair m) = splitText sep s := by
    refine (List.map_congr_left fun p hp => ?_).trans (List.map_id _)
    exact redactPair_of_not_mem m fun hmem => h (subset_of_mem_splitText hsep hp hmem)
  rw [redactPairs, hpieces, intercalate_splitText hsep]

/-! ### Fields and headers -/

theorem redactFields_eq_map (f : Fields) :
    redactFields m f =
      f.map fun x => (x.1, if m.hits x.1.toList then Json.str redacted else x.2) := by
  refine List.map_congr_left fun x _ => ?_
  obtain ⟨k, v⟩ := x
  cases hhits : m.hits k.toList <;> simp [hhits]

/-- A header of a request, redacted by its name and, if it is a cookie header, pair by pair. -/
def redactHeader (name : String) (value : Json) : Json :=
  if m.hits name.toList then .str redacted
  else if isHeaderNamed "cookie" name then value.mapText (redactPairs m [';', ' '])
  else value

/-- Redacting names first and pairs second does each header once. -/
theorem redactCookieHeader_redactFields (headers : Fields) :
    redactCookieHeader m (redactFields m headers) =
      headers.map fun x => (x.1, redactHeader m x.1 x.2) := by
  rw [redactCookieHeader, redactFields, List.map_map]
  refine List.map_congr_left fun x _ => ?_
  obtain ⟨k, v⟩ := x
  have hredacted : redactPairs m [';', ' '] redacted.toList = redacted.toList := rfl
  cases hhits : m.hits k.toList <;> cases hcookie : isHeaderNamed "cookie" k
  · simp [redactHeader, hhits, hcookie]
  · cases v <;> simp [redactHeader, hhits, hcookie, Json.mapText]
  · simp [redactHeader, hhits, hcookie]
  · simp [redactHeader, hhits, hcookie, hredacted]

/-! ### The usual chain -/

/-- A request with each of its places redacted. -/
def redactRequest (form : Bool) (request : Fields) : Fields :=
  (redactBody m form
    ((request.modifyObject "headers" (redactCookieHeader m ∘ redactFields m)).modifyObject "cookies"
      (redactFields m))).modifyObject "url" (redactUrl m)

/-- Headers that say that the body is an encoded form. -/
def saysForm (headers : Fields) : Bool :=
  headers.any fun x => isHeaderNamed "content-type" x.1 &&
    match x.2 with
    | .str s => beginsWith formContentType.toList s.toList
    | _ => false

theorem isForm_eq (context : Fields) :
    isForm context = (context.objectAt? ["request", "headers"]).any saysForm := by
  rw [isForm]
  cases context.objectAt? ["request", "headers"] <;> rfl

/-- Whether the body of a request is taken for a form, which is decided after its headers were
redacted. -/
def takenForForm (context : Fields) : Bool :=
  (context.objectAt? ["request", "headers"]).any
    (saysForm ∘ redactCookieHeader m ∘ redactFields m)

/-- Some header of the request says that the body is an encoded form, and its own name is not
sensitive. -/
def TellsForm (context : Fields) : Prop :=
  ∃ headers name value, context.objectAt? ["request", "headers"] = some headers ∧
    (name, Json.str value) ∈ headers ∧ isHeaderNamed "content-type" name = true ∧
    m.hits name.toList = false ∧ beginsWith formContentType.toList value.toList = true

theorem not_isHeaderNamed_cookie {name : String} (h : isHeaderNamed "content-type" name = true) :
    isHeaderNamed "cookie" name = false := by
  simp only [isHeaderNamed, beq_iff_eq] at h
  rw [isHeaderNamed, h]
  decide

/-- A redacted header that says so was let through as it was. -/
theorem redactHeader_eq_form_iff {name : String} {value : Json} {s : String}
    (hname : isHeaderNamed "content-type" name = true)
    (hs : beginsWith formContentType.toList s.toList = true) :
    redactHeader m name value = .str s ↔ m.hits name.toList = false ∧ value = .str s := by
  rw [redactHeader, not_isHeaderNamed_cookie hname]
  cases m.hits name.toList with
  | false => simp
  | true =>
    suffices redacted ≠ s by simpa
    rintro rfl
    exact absurd hs (by decide)

/-- **A content type counts if its own name is not sensitive.** -/
theorem takenForForm_iff (context : Fields) :
    takenForForm m context = true ↔ TellsForm m context := by
  rw [takenForForm, Option.any_eq_true]
  constructor
  · rintro ⟨headers, hheaders, hsays⟩
    simp only [Function.comp_apply, redactCookieHeader_redactFields, saysForm, List.any_map,
      List.any_eq_true, Bool.and_eq_true] at hsays
    obtain ⟨⟨name, value⟩, hmem, hname, hform⟩ := hsays
    split at hform
    · rename_i s hs
      obtain ⟨hhits, rfl⟩ := (redactHeader_eq_form_iff m hname hform).mp hs
      exact ⟨headers, name, s, hheaders, hmem, hname, hhits, hform⟩
    · exact absurd hform (by decide)
  · rintro ⟨headers, name, value, hheaders, hmem, hname, hhits, hform⟩
    refine ⟨headers, hheaders, ?_⟩
    simp only [Function.comp_apply, redactCookieHeader_redactFields, saysForm, List.any_map,
      List.any_eq_true, Bool.and_eq_true]
    refine ⟨(name, .str value), hmem, hname, ?_⟩
    simp only [(redactHeader_eq_form_iff m hname hform).mpr ⟨hhits, rfl⟩, hform]

/-- What the processors before the one for the body do to a request. -/
def redactEarly (request : Fields) : Fields :=
  (request.modifyObject "headers" (redactCookieHeader m ∘ redactFields m)).modifyObject "cookies"
    (redactFields m)

theorem redact_headers_cookies (context : Fields) :
    Processor.redact m (Processor.redact m context .headers) .cookies =
      (context.modifyObject "request" (redactEarly m)).modifyObject "response"
        (·.modifyObject "headers" (redactFields m)) := by
  have hne : ("response" : String) ≠ "request" := by decide
  simp only [Processor.redact]
  rw [Fields.modifyObject_comm hne, Fields.modifyObject_modifyObject_self]
  refine congrArg (Fields.modifyObject _ _) (congrArg (Fields.modifyObject _ · _) ?_)
  funext request
  have hkeys : ("cookies" : String) ≠ "headers" := by decide
  simp only [Function.comp_apply, redactEarly]
  rw [Fields.modifyObject_comm hkeys, Fields.modifyObject_modifyObject_self]

/-- The processor for the body looks at headers that have been redacted. -/
theorem isForm_redact_headers_cookies (context : Fields) :
    isForm (Processor.redact m (Processor.redact m context .headers) .cookies) =
      takenForForm m context := by
  have hne : ("request" : String) ≠ "response" := by decide
  rw [redact_headers_cookies, isForm_eq, Fields.objectAt?_modifyObject_of_ne hne,
    Fields.objectAt?_modifyObject, takenForForm, Fields.objectAt?]
  cases (context.get? "request").bind Json.fields? with
  | none => rfl
  | some request =>
    simp only [Option.map_some, Option.bind_some, redactEarly]
    rw [Fields.objectAt?_modifyObject_of_ne (by decide), Fields.objectAt?_modifyObject,
      Fields.objectAt?]
    cases (request.get? "headers").bind Json.fields? <;> rfl

/-- **The usual chain, place by place.** -/
theorem ProcessorChain.redact_all (context : Fields) :
    (⟨Processor.all, m⟩ : ProcessorChain).redact context =
      (context.modifyObject "request" (redactRequest m (takenForForm m context))).modifyObject
        "response" (·.modifyObject "headers" (redactFields m)) := by
  have hne : ("response" : String) ≠ "request" := by decide
  have hbody (c : Fields) :
      Processor.redact m c .body = c.modifyObject "request" (redactBody m (isForm c)) := rfl
  have hquery (c : Fields) :
      Processor.redact m c .query =
        c.modifyObject "request" (·.modifyObject "url" (redactUrl m)) := rfl
  simp only [redact, Processor.all, List.foldl_cons, List.foldl_nil]
  rw [hquery, hbody, isForm_redact_headers_cookies, redact_headers_cookies,
    Fields.modifyObject_comm hne, Fields.modifyObject_modifyObject_self,
    Fields.modifyObject_comm hne, Fields.modifyObject_modifyObject_self]
  rfl

/-! ### The value under a key -/

/-- The body of a request, redacted. -/
def redactBodyValue (form : Bool) : Json → Json
  | .obj body => .obj (redactFields m body)
  | .str body => .str (if form then String.ofList (redactPairs m ['&'] body.toList) else body)
  | v => v

/-- One part of a request, redacted. -/
def redactRequestPart (form : Bool) (key : String) (value : Json) : Json :=
  if key = "headers" then value.mapFields (redactCookieHeader m ∘ redactFields m)
  else if key = "cookies" then value.mapFields (redactFields m)
  else if key = "body" then redactBodyValue m form value
  else if key = "url" then value.mapFields (redactUrl m)
  else value

/-- One part of a context, redacted. -/
def redactPart (form : Bool) (key : String) (value : Json) : Json :=
  if key = "request" then
    value.mapFields fun request => request.map fun x => (x.1, redactRequestPart m form x.1 x.2)
  else if key = "response" then
    value.mapFields (·.modifyObject "headers" (redactFields m))
  else value

theorem redactBody_eq_modify (form : Bool) (request : Fields) :
    redactBody m form request = request.modify "body" (redactBodyValue m form) := by
  refine congrArg (request.modify "body") (funext fun v => ?_)
  cases v <;> rfl

theorem redactRequest_eq_map (form : Bool) (request : Fields) :
    redactRequest m form request =
      request.map fun x => (x.1, redactRequestPart m form x.1 x.2) := by
  simp only [redactRequest, redactBody_eq_modify, Fields.modifyObject_eq, Fields.modify_eq_map,
    List.map_map]
  refine List.map_congr_left fun x _ => congrArg (Prod.mk x.1) ?_
  simp only [Function.comp_apply, redactRequestPart]
  split_ifs <;> simp_all

/-- **The usual chain changes each part of a context on its own**, once it is known whether the body
is a form. -/
theorem ProcessorChain.redact_all_eq_map (context : Fields) :
    (⟨Processor.all, m⟩ : ProcessorChain).redact context =
      context.map fun x => (x.1, redactPart m (takenForForm m context) x.1 x.2) := by
  rw [redact_all, funext (redactRequest_eq_map m _)]
  simp only [Fields.modifyObject_eq, Fields.modify_eq_map, List.map_map]
  refine List.map_congr_left fun x _ => congrArg (Prod.mk x.1) ?_
  simp only [redactPart]
  split_ifs <;> simp_all [Fields.modifyObject_eq, Fields.modify_eq_map]

end Telemetry
