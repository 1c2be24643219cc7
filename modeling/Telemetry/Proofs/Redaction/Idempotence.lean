import Telemetry.Proofs.Redaction.Noninterference

/-!
# Redacting twice

A chain that has gone over an event has nothing left to do there. This holds for any processors in
any order, also where several of them work on the same value, and it is not enough that each of them
is done after one pass: what the later ones write must give the earlier ones nothing new to find.

Two things make it so. What two processors do to a value does not depend on their order, so a
processor that was done stays done. And the one thing that a processor reads elsewhere, whether the
body is a form, can be lost when headers are redacted, but not gained; a body that was searched for
pairs and left alone has nothing to redact when it is not searched.

## Main definitions

* `Processor.requestPart`, `Processor.part`: what one processor does to a part of the request, and
  to a part of the context.
* `Processor.redactWith`: one processor, when it is known whether the body is a form.

## Main results

* `Processor.redactWith_redactWith`, `Processor.redactWith_comm`: processors are idempotent, and
  commute.
* `ProcessorChain.redact_of_mem`: no processor of a chain has anything left to do after it.
* `ProcessorChain.process_process`: redaction is idempotent.
-/

namespace Telemetry

open Text

variable (m : FieldMatcher)

/-! ### Texts and objects -/

theorem redactPair_redactPair (pair : List Char) :
    redactPair m (redactPair m pair) = redactPair m pair := by
  rcases redactPair_cases m pair with h | ⟨key, value, hkey, hhits, -, h⟩
  · rw [h, h]
  · rw [h, redactPair_of_hits m hkey hhits]

theorem redactPairs_redactPairs {sep : List Char} (hsep : PairSeparator sep) (s : List Char) :
    redactPairs m sep (redactPairs m sep s) = redactPairs m sep s := by
  have hpieces : (splitText sep (redactPairs m sep s)).map (redactPair m) =
      (splitText sep s).map (redactPair m) := by
    rw [splitText_redactPairs m hsep, List.map_map]
    exact List.map_congr_left fun pair _ => redactPair_redactPair m pair
  exact congrArg (List.intercalate sep) hpieces

theorem redactSearch_redactSearch (s : List Char) :
    redactSearch m (redactSearch m s) = redactSearch m s :=
  have halike : SearchAlike m s (redactSearch m s) := searchAlike_redactSearch m s
  halike.redact_eq.symm

/-- Exchanging a text for itself changes nothing. -/
theorem replaceText_self {pattern : List Char} (h : pattern ≠ []) (s : List Char) :
    replaceText pattern pattern s = s :=
  intercalate_splitText h s

theorem redactFields_redactFields (f : Fields) :
    redactFields m (redactFields m f) = redactFields m f :=
  (redactFields_eq_of_alike (fieldsAlike_redactFields m f)).symm

theorem redactCookieHeader_eq_map (headers : Fields) :
    redactCookieHeader m headers = headers.map fun x =>
      (x.1,
        if isHeaderNamed "cookie" x.1 then x.2.mapText (redactPairs m [';', ' ']) else x.2) := by
  refine List.map_congr_left fun x _ => ?_
  obtain ⟨k, v⟩ := x
  cases hcookie : isHeaderNamed "cookie" k <;> cases v <;> simp [hcookie, Json.mapText]

theorem redactCookieHeader_redactCookieHeader (headers : Fields) :
    redactCookieHeader m (redactCookieHeader m headers) = redactCookieHeader m headers := by
  simp only [redactCookieHeader_eq_map, List.map_map]
  refine List.map_congr_left fun x _ => congrArg (Prod.mk x.1) ?_
  obtain ⟨k, v⟩ := x
  cases hcookie : isHeaderNamed "cookie" k with
  | false => simp [hcookie]
  | true =>
    cases v <;> simp [hcookie, Json.mapText, redactPairs_redactPairs m pairSeparator_cookie]

/-- Names and pairs of headers can be redacted in either order. -/
theorem redactFields_redactCookieHeader (headers : Fields) :
    redactFields m (redactCookieHeader m headers) =
      redactCookieHeader m (redactFields m headers) := by
  rw [redactCookieHeader_redactFields, redactFields_eq_map, redactCookieHeader_eq_map,
    List.map_map]
  rfl

/-- A body that is redacted twice is redacted as a form if it once was. -/
theorem redactBodyValue_redactBodyValue (form form' : Bool) (v : Json) :
    redactBodyValue m form (redactBodyValue m form' v) = redactBodyValue m (form || form') v := by
  cases v with
  | obj body => simp [redactBodyValue, redactFields_redactFields]
  | str body =>
    cases form <;> cases form' <;>
      simp [redactBodyValue, redactPairs_redactPairs m pairSeparator_ampersand]
  | _ => rfl

theorem Json.mapFields_mapFields (f g : Fields → Fields) (v : Json) :
    (v.mapFields f).mapFields g = v.mapFields (g ∘ f) :=
  congrFun (mapFields_comp f g) v

theorem Json.mapText_of_forall {F : List Char → List Char} (h : ∀ s, F s = s) (v : Json) :
    v.mapText F = v := by
  cases v <;> simp [mapText, h]

theorem Fields.modify_of_forall {key : String} {f : Json → Json} (h : ∀ v, f v = v)
    (fields : Fields) : fields.modify key f = fields := by
  rw [modify_eq_map]
  exact (List.map_congr_left fun x _ => by simp [h]).trans (List.map_id _)

theorem redactUrl_redactUrl (url : Fields) : redactUrl m (redactUrl m url) = redactUrl m url := by
  rcases redactUrl_cases m url with h | ⟨s, t, hsearch, hpairs, halike, -⟩
  · rw [h, h]
  · set clean := redactSearch m s.toList with hclean
    -- the query string that is found the second time
    have hsearch' : Fields.get? "search" (redactUrl m url) = some (.str (String.ofList clean)) := by
      rw [redactUrl_of_search hsearch hpairs, Fields.get?_modify_self,
        Fields.get?_modify_of_ne (by decide), hsearch]
      rfl
    have hpairs' : '=' ∈ clean := (searchAlike_redactSearch m s.toList).mem hpairs
    have hsame : redactSearch m clean = clean := redactSearch_redactSearch m _
    have hfull : ∀ v : Json, v.mapText (replaceText clean clean) = v :=
      Json.mapText_of_forall (replaceText_self (List.ne_nil_of_mem hpairs'))
    rw [redactUrl_of_search hsearch' (by simpa using hpairs'), String.toList_ofList, hsame,
      Fields.modify_of_forall hfull, redactUrl_of_search hsearch hpairs,
      Fields.modify_modify_self]
    rfl

/-! ### One processor -/

/-- What a processor does to a part of the request. -/
def Processor.requestPart (form : Bool) (p : Processor) (key : String) (value : Json) : Json :=
  match p with
  | .headers => if key = "headers" then value.mapFields (redactFields m) else value
  | .cookies =>
    if key = "headers" then value.mapFields (redactCookieHeader m)
    else if key = "cookies" then value.mapFields (redactFields m)
    else value
  | .body => if key = "body" then redactBodyValue m form value else value
  | .query => if key = "url" then value.mapFields (redactUrl m) else value

/-- What a processor does to a part of the context. -/
def Processor.part (form : Bool) (p : Processor) (key : String) (value : Json) : Json :=
  if key = "request" then
    value.mapFields fun request => request.map fun x => (x.1, p.requestPart m form x.1 x.2)
  else if key = "response" ∧ p = .headers then
    value.mapFields (·.modifyObject "headers" (redactFields m))
  else value

/-- The context with the values of one place redacted, where the body is taken for a form or not. -/
def Processor.redactWith (form : Bool) (p : Processor) (context : Fields) : Fields :=
  context.map fun x => (x.1, p.part m form x.1 x.2)

namespace Processor

variable (p q : Processor) (form form' : Bool) (context : Fields)

theorem modifyObject_request_eq_redactWith (hp : p ≠ .headers) (f : Fields → Fields)
    (hf : ∀ request, f request = request.map fun x => (x.1, p.requestPart m form x.1 x.2)) :
    context.modifyObject "request" f = p.redactWith m form context := by
  rw [Fields.modifyObject_eq, Fields.modify_eq_map, redactWith, funext hf]
  refine List.map_congr_left fun x _ => congrArg (Prod.mk x.1) ?_
  simp [part, hp]

/-- A processor changes each part of a context on its own, once it is known whether the body is a
form. -/
theorem redact_eq_redactWith : p.redact m context = p.redactWith m (isForm context) context := by
  cases p with
  | headers =>
    simp only [redact, redactWith, Fields.modifyObject_eq, Fields.modify_eq_map, List.map_map]
    refine List.map_congr_left fun x _ => congrArg (Prod.mk x.1) ?_
    by_cases hrequest : x.1 = "request" <;> by_cases hresponse : x.1 = "response" <;>
      simp_all [part, requestPart, Fields.modifyObject_eq, Fields.modify_eq_map]
  | cookies =>
    refine modifyObject_request_eq_redactWith m _ _ _ (by decide) _ fun request => ?_
    simp only [Fields.modifyObject_eq, Fields.modify_eq_map, List.map_map]
    refine List.map_congr_left fun x _ => congrArg (Prod.mk x.1) ?_
    by_cases hheaders : x.1 = "headers" <;> simp [requestPart, hheaders]
  | body =>
    refine modifyObject_request_eq_redactWith m _ _ _ (by decide) _ fun request => ?_
    rw [redactBody_eq_modify, Fields.modify_eq_map]
    rfl
  | query =>
    refine modifyObject_request_eq_redactWith m _ _ _ (by decide) _ fun request => ?_
    rw [Fields.modifyObject_eq, Fields.modify_eq_map]
    rfl

/-! ### Two processors -/

theorem requestPart_requestPart (key : String) (v : Json) :
    p.requestPart m form key (p.requestPart m form' key v) =
      p.requestPart m (form || form') key v := by
  cases p with
  | headers =>
    by_cases hkey : key = "headers"
    · simp [requestPart, hkey, Json.mapFields_mapFields, Function.comp_def,
        redactFields_redactFields]
    · simp [requestPart, hkey]
  | cookies =>
    by_cases hheaders : key = "headers"
    · simp [requestPart, hheaders, Json.mapFields_mapFields, Function.comp_def,
        redactCookieHeader_redactCookieHeader]
    · by_cases hcookies : key = "cookies"
      · simp [requestPart, hcookies, Json.mapFields_mapFields, Function.comp_def,
          redactFields_redactFields]
      · simp [requestPart, hheaders, hcookies]
  | body =>
    by_cases hkey : key = "body"
    · simp [requestPart, hkey, redactBodyValue_redactBodyValue]
    · simp [requestPart, hkey]
  | query =>
    by_cases hkey : key = "url"
    · simp [requestPart, hkey, Json.mapFields_mapFields, Function.comp_def, redactUrl_redactUrl]
    · simp [requestPart, hkey]

/-- Only the headers of the request have two processors. -/
theorem requestPart_comm (key : String) (v : Json) :
    p.requestPart m form key (q.requestPart m form' key v) =
      q.requestPart m form' key (p.requestPart m form key v) := by
  by_cases hpq : p = q
  · rw [hpq, requestPart_requestPart, requestPart_requestPart, Bool.or_comm]
  · by_cases hheaders : key = "headers"
    · cases p <;> cases q <;>
        simp_all [requestPart, Json.mapFields_mapFields, Function.comp_def,
          redactFields_redactCookieHeader]
    · cases p <;> cases q <;> simp only [requestPart] <;> split_ifs <;> simp_all

theorem part_part (key : String) (v : Json) :
    p.part m form key (p.part m form' key v) = p.part m (form || form') key v := by
  simp only [part]
  split_ifs with hrequest hresponse
  · simp [Json.mapFields_mapFields, Function.comp_def, requestPart_requestPart]
  · simp [Json.mapFields_mapFields, Function.comp_def, Fields.modifyObject_modifyObject_self,
      redactFields_redactFields]
  · rfl

theorem part_comm (key : String) (v : Json) :
    p.part m form key (q.part m form' key v) = q.part m form' key (p.part m form key v) := by
  simp only [part]
  split_ifs with hrequest hp hq hq
  · simp only [Json.mapFields_mapFields, Function.comp_def, List.map_map]
    simp only [requestPart_comm m p q]
  all_goals rfl

/-- **A processor that runs twice** takes the body for a form if it once did. -/
theorem redactWith_redactWith :
    p.redactWith m form (p.redactWith m form' context) =
      p.redactWith m (form || form') context := by
  simp only [redactWith, List.map_map, Function.comp_def, part_part]

/-- **Two processors can run in either order**, if whether the body is a form is asked before. -/
theorem redactWith_comm :
    p.redactWith m form (q.redactWith m form' context) =
      q.redactWith m form' (p.redactWith m form context) := by
  simp only [redactWith, List.map_map, Function.comp_def, part_comm m p q]

/-! ### Whether the body is a form -/

/-- What a processor does to the headers of the request. -/
def requestHeaders : Processor → Fields → Fields
  | .headers => redactFields m
  | .cookies => redactCookieHeader m
  | .body | .query => id

/-- The request headers after a processor. -/
theorem objectAt?_redactWith :
    Fields.objectAt? ["request", "headers"] (p.redactWith m form context) =
      (context.objectAt? ["request", "headers"]).map (p.requestHeaders m) := by
  have hheaders (v : Json) :
      (p.requestPart m form "headers" v).fields? = v.fields?.map (p.requestHeaders m) := by
    cases p <;> simp [requestPart, requestHeaders]
  have hrequest (v : Json) : (p.part m form "request" v).fields? = v.fields?.map fun request =>
      request.map fun x => (x.1, p.requestPart m form x.1 x.2) :=
    Json.fields?_mapFields _ v
  rw [Fields.objectAt?_pair, redactWith, Fields.objectAt?_map hrequest, Fields.objectAt?_pair]
  cases context.objectAt? ["request"] with
  | none => rfl
  | some request => exact Fields.objectAt?_map hheaders request

/-- A header that says so after another was redacted said so before. -/
theorem saysForm_of_requestHeaders {headers : Fields}
    (h : saysForm (p.requestHeaders m headers) = true) : saysForm headers = true := by
  cases p with
  | headers =>
    rw [requestHeaders, redactFields_eq_map] at h
    simp only [saysForm, List.any_map, List.any_eq_true, Function.comp_apply,
      Bool.and_eq_true] at h ⊢
    obtain ⟨x, hx, hname, hform⟩ := h
    refine ⟨x, hx, hname, ?_⟩
    cases hhits : m.hits x.1.toList with
    | false => simpa [hhits] using hform
    | true =>
      simp only [hhits, if_true] at hform
      exact absurd hform (by decide)
  | cookies =>
    rw [requestHeaders, redactCookieHeader_eq_map] at h
    simp only [saysForm, List.any_map, List.any_eq_true, Function.comp_apply,
      Bool.and_eq_true] at h ⊢
    obtain ⟨x, hx, hname, hform⟩ := h
    refine ⟨x, hx, hname, ?_⟩
    simpa [not_isHeaderNamed_cookie hname] using hform
  | body | query => exact h

/-- **Redaction makes no form of a body that was none.** -/
theorem isForm_of_redactWith (h : isForm (p.redactWith m form context) = true) :
    isForm context = true := by
  rw [isForm_eq, objectAt?_redactWith, Option.any_map, Option.any_eq_true] at h
  obtain ⟨headers, hheaders, hsays⟩ := h
  rw [isForm_eq, Option.any_eq_true]
  exact ⟨headers, hheaders, saysForm_of_requestHeaders m p hsays⟩

/-! ### Processors that have run -/

variable {context}

/-- A processor that has run has nothing left to do. -/
theorem redact_redact : p.redact m (p.redact m context) = p.redact m context := by
  simp only [redact_eq_redactWith]
  rw [redactWith_redactWith]
  cases hform : isForm (p.redactWith m (isForm context) context) with
  | false => rfl
  | true => rw [isForm_of_redactWith m p _ _ hform, Bool.or_self]

/-- A processor that has nothing left to do gets nothing to do by another. -/
theorem redact_redact_of_eq (h : p.redact m context = context) :
    p.redact m (q.redact m context) = q.redact m context := by
  simp only [redact_eq_redactWith] at h ⊢
  set form := isForm context
  set form' := isForm (q.redactWith m form context) with hform'
  have hle : (form' || form) = form := by
    cases h' : form' with
    | false => rfl
    | true => rw [Bool.true_or, ← isForm_of_redactWith m q form context (hform' ▸ h')]
  have hdone : p.redactWith m form' context = context := by
    calc p.redactWith m form' context
        = p.redactWith m form' (p.redactWith m form context) := by rw [h]
      _ = p.redactWith m form context := by rw [redactWith_redactWith, hle]
      _ = context := h
  rw [redactWith_comm, hdone]

end Processor

/-! ### Chains -/

namespace ProcessorChain

variable (chain : ProcessorChain)

/-- The context of any event but a span is redacted. -/
theorem context_process {e : Event} (h : ∀ r, e ≠ .span r) :
    (chain.process e).context = e.context.map chain.redact := by
  cases e with
  | span r => exact absurd rfl (h r)
  | transaction r | error r => rfl

/-- **No processor of a chain has anything left to do after it.** -/
theorem redact_of_mem {p : Processor} (hp : p ∈ chain.processors) (context : Fields) :
    p.redact chain.fields (chain.redact context) = chain.redact context := by
  obtain ⟨processors, m⟩ := chain
  simp only [redact] at hp ⊢
  induction processors using List.reverseRecOn with
  | nil => exact absurd hp (by simp)
  | append_singleton processors q ih =>
    rw [List.foldl_concat]
    rcases List.mem_append.mp hp with hp | hp
    · exact p.redact_redact_of_eq m q (ih hp)
    · obtain rfl : p = q := List.mem_singleton.mp hp
      exact p.redact_redact m

/-- A chain whose processors have nothing left to do does nothing. -/
theorem redact_of_forall {context : Fields}
    (h : ∀ p ∈ chain.processors, p.redact chain.fields context = context) :
    chain.redact context = context := by
  obtain ⟨processors, m⟩ := chain
  simp only [redact] at h ⊢
  induction processors with
  | nil => rfl
  | cons p processors ih =>
    rw [List.foldl_cons, h p List.mem_cons_self]
    exact ih fun q hq => h q (List.mem_cons_of_mem p hq)

theorem redact_redact (context : Fields) :
    chain.redact (chain.redact context) = chain.redact context :=
  chain.redact_of_forall fun _ hp => chain.redact_of_mem hp context

/-- **Redaction is idempotent**: an event that a chain has processed comes out of it unchanged. -/
theorem process_process (e : Event) : chain.process (chain.process e) = chain.process e := by
  have hcontext (c : Option Fields) :
      (c.map chain.redact).map chain.redact = c.map chain.redact := by
    rw [Option.map_map]
    exact Option.map_congr fun context _ => chain.redact_redact context
  cases e with
  | transaction r => simp only [process, hcontext]
  | span r => rfl
  | error r => simp only [process, hcontext]

end ProcessorChain

end Telemetry
