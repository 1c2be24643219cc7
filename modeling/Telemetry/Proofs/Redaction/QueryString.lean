import Telemetry.Proofs.Redaction.Idempotence
import Telemetry.Proofs.Redaction.Monotonicity

/-!
# The query string, which an address has twice

An address has its query string on its own, and once more in the middle of the full address. It is
cut into pairs where it stands alone. In the full address the old text is looked for, and the new
one is written over it.

A text that is looked for could be found in the wrong place, or twice: keys and values are free,
pairs may be empty or repeat each other, and there may be question marks in any of them. What makes
it work is the mark at the front. The first mark of a full address is where its query string begins,
so nothing is found before; and as nothing after the query string has a mark, nothing is found
there.

## Main definitions

* `RedactsPair`: what becomes of a pair.
* `Fields.SameBut`: contexts that differ in nothing but what stands at the ends of some paths.

## Main results

* `get?_full_redactUrl`: the full address after redaction.
* `sameBut_redactUrl`: redaction leaves the rest of an address alone.
* `ProcessorChain.process_query`: both query strings are redacted alike, pair by pair.
-/

namespace Telemetry

open Text

variable {m : FieldMatcher}

/-! ### Pairs -/

variable (m) in
/-- A pair with a sensitive key has its value replaced, and any other piece of a query string is
left as it is. The key is what stands before the first equals sign. -/
inductive RedactsPair : List Char → List Char → Prop
  | hidden {key : List Char} (hkey : '=' ∉ key) (h : m.hits key = true) (value : List Char) :
    RedactsPair (key ++ '=' :: value) (key ++ '=' :: redacted.toList)
  | kept {pair : List Char}
    (h : ∀ key value, '=' ∉ key → pair = key ++ '=' :: value → m.hits key = false) :
    RedactsPair pair pair

theorem redactsPair_redactPair (pair : List Char) : RedactsPair m pair (redactPair m pair) := by
  cases hsplit : splitOnce? '=' pair with
  | none =>
    have hnot : '=' ∉ pair := splitOnce?_eq_none_iff.mp hsplit
    rw [redactPair_of_not_mem m hnot]
    refine .kept fun key value _ heq => absurd ?_ hnot
    simp [heq]
  | some p =>
    obtain ⟨rfl, hkey⟩ := eq_of_splitOnce? hsplit
    cases hhits : m.hits p.1 with
    | true =>
      rw [redactPair_of_hits m hkey hhits]
      exact .hidden hkey hhits p.2
    | false =>
      rw [redactPair_of_not_hits m hkey hhits]
      refine .kept fun key value hkey' heq => ?_
      rwa [← (pair_inj hkey hkey' heq).1]

/-- The pairs of a query string are redacted one by one. -/
theorem forall₂_redactsPair (query : List Char) :
    List.Forall₂ (RedactsPair m) (query.splitOn '&')
      ((redactPairs m ['&'] query).splitOn '&') := by
  rw [← splitText_singleton, ← splitText_singleton, splitText_redactPairs m pairSeparator_ampersand]
  exact List.forall₂_map_right_iff.mpr (List.forall₂_same.mpr fun p _ => redactsPair_redactPair p)

/-! ### Contexts that differ at some places -/

/-- Fields that differ in nothing but what stands at the ends of some paths. -/
def Fields.SameBut (paths : List (List String)) (f g : Fields) : Prop :=
  ∀ path, (∀ p ∈ paths, ¬ path <+: p) → (Json.obj g).at? path = (Json.obj f).at? path

/-- There is no way into a text. -/
theorem Json.at?_mapText (F : List Char → List Char) (v : Json) (key : String)
    (path : List String) : (v.mapText F).at? (key :: path) = v.at? (key :: path) := by
  cases v <;> rfl

namespace Fields.SameBut

theorem refl (paths : List (List String)) (f : Fields) : SameBut paths f f := fun _ _ => rfl

/-- What differs at some places of an object under a key differs at these places of the whole. -/
theorem modifyObject {F : Fields → Fields} (paths : List (List String)) (hpaths : paths ≠ [])
    (h : ∀ f, SameBut paths f (F f)) (key : String) (f : Fields) :
    SameBut (paths.map (key :: ·)) f (f.modifyObject key F) := by
  intro path hpath
  obtain ⟨p, hp⟩ := List.exists_mem_of_ne_nil paths hpaths
  cases path with
  | nil => exact absurd (List.nil_prefix) (hpath _ (List.mem_map_of_mem hp))
  | cons k rest =>
    change (Fields.get? k (f.modifyObject key F)).bind (Json.at? rest) =
      (Fields.get? k f).bind (Json.at? rest)
    by_cases hk : k = key
    · subst hk
      have hrest : ∀ p ∈ paths, ¬ rest <+: p := fun p hp hprefix =>
        hpath _ (List.mem_map_of_mem hp) ((List.prefix_cons_inj k).mpr hprefix)
      rw [Fields.modifyObject_eq, Fields.get?_modify_self]
      cases hget : Fields.get? k f with
      | none => rfl
      | some v =>
        cases v with
        | obj inner => exact h inner rest hrest
        | _ => rfl
    · rw [Fields.modifyObject_eq, Fields.get?_modify_of_ne hk]

end Fields.SameBut

/-! ### Addresses -/

/-- **The full address** has the redacted query string wherever it had the other one. -/
theorem get?_full_redactUrl {url : Fields} {search : String}
    (hsearch : url.get? "search" = some (.str search)) (hne : search.toList ≠ []) :
    Fields.get? "full" (redactUrl m url) = (url.get? "full").map
      (Json.mapText (replaceText search.toList (redactSearch m search.toList))) := by
  by_cases hpairs : '=' ∈ search.toList
  · rw [redactUrl_of_search hsearch hpairs, Fields.get?_modify_of_ne (by decide),
      Fields.get?_modify_self]
  · have hsame : redactSearch m search.toList = search.toList := redactSearch_of_not_mem hpairs
    have hfull : Json.mapText (replaceText search.toList search.toList) = id :=
      funext (Json.mapText_of_forall (replaceText_self hne))
    simp [redactUrl, hsearch, hpairs, hsame, hfull]

/-- **Nothing else in an address changes.** -/
theorem sameBut_redactUrl (url : Fields) :
    Fields.SameBut [["search"], ["full"]] url (redactUrl m url) := by
  rcases redactUrl_cases m url with h | ⟨s, t, hsearch, -, -, hurl⟩
  · rw [h]
    exact .refl _ url
  · intro path hpath
    cases path with
    | nil => exact absurd List.nil_prefix (hpath ["search"] (by simp))
    | cons k rest =>
      change (Fields.get? k (redactUrl m url)).bind (Json.at? rest) =
        (Fields.get? k url).bind (Json.at? rest)
      rw [hurl]
      by_cases hks : k = "search"
      · subst hks
        obtain ⟨key, rest, rfl⟩ := List.exists_cons_of_ne_nil fun hnil : rest = [] =>
          hpath ["search"] (by simp) (by rw [hnil])
        rw [Fields.get?_modify_self, Fields.get?_modify_of_ne (by decide), hsearch]
        rfl
      · rw [Fields.get?_modify_of_ne hks]
        by_cases hkf : k = "full"
        · subst hkf
          obtain ⟨key, rest, rfl⟩ := List.exists_cons_of_ne_nil fun hnil : rest = [] =>
            hpath ["full"] (by simp) (by rw [hnil])
          rw [Fields.get?_modify_self, Option.bind_map]
          cases Fields.get? "full" url with
          | none => rfl
          | some v => exact Json.at?_mapText _ v key rest
        · rw [Fields.get?_modify_of_ne hkf]

/-- The address of a context after its query string was redacted. -/
theorem objectAt?_redact_query (context : Fields) :
    Fields.objectAt? ["request", "url"] (Processor.redact m context .query) =
      (context.objectAt? ["request", "url"]).map (redactUrl m) := by
  rw [Processor.redact, Fields.objectAt?_modifyObject, Fields.objectAt?]
  cases (context.get? "request").bind Json.fields? with
  | none => rfl
  | some request =>
    rw [Option.map_some, Option.bind_some, Option.bind_some, Fields.objectAt?_modifyObject,
      Fields.objectAt?]
    cases (request.get? "url").bind Json.fields? <;> rfl

theorem sameBut_redact_query (context : Fields) :
    Fields.SameBut [["request", "url", "search"], ["request", "url", "full"]] context
      (Processor.redact m context .query) :=
  .modifyObject [["url", "search"], ["url", "full"]] (by simp)
    (.modifyObject [["search"], ["full"]] (by simp) sameBut_redactUrl "url") "request" context

theorem Fields.textAt?_eq_some_iff {path : List String} {key : String} {s : List Char}
    {context : Fields} : context.textAt? path key = some s ↔
      ∃ f, context.objectAt? path = some f ∧ f.get? key = some (.str (String.ofList s)) := by
  have htext (v : Json) : v.str?.map String.toList = some s ↔ v = .str (String.ofList s) := by
    cases v with
    | str t => simp [Json.str?, String.ext_iff]
    | _ => simp [Json.str?]
  rw [textAt?]
  cases context.objectAt? path with
  | none => simp
  | some f =>
    suffices ((f.get? key).bind Json.str?).map String.toList = some s ↔
        f.get? key = some (.str (String.ofList s)) by simpa
    cases f.get? key with
    | none => simp
    | some v => simpa using htext v

/-! ### Events -/

/-- **The query string and the full address are redacted alike.** Of an address that has its query
string once more in the full address, with no question mark before or after it, the pairs are
redacted one by one, the full address has the same pairs in the same place, and nothing else in the
event changes. -/
theorem ProcessorChain.process_query {e : Event} {context : Fields}
    {base query fragment : List Char} (hevent : ∀ r, e ≠ .span r)
    (hcontext : e.context = some context)
    (hsearch : context.textAt? ["request", "url"] "search" = some ('?' :: query))
    (hfull : context.textAt? ["request", "url"] "full" =
      some (base ++ ('?' :: query ++ fragment)))
    (hbase : '?' ∉ base) (hfragment : '?' ∉ fragment) :
    ∃ context' query',
      ((⟨[.query], m⟩ : ProcessorChain).process e).context = some context' ∧
      context'.textAt? ["request", "url"] "search" = some ('?' :: query') ∧
      List.Forall₂ (RedactsPair m) (query.splitOn '&') (query'.splitOn '&') ∧
      context'.textAt? ["request", "url"] "full" = some (base ++ ('?' :: query' ++ fragment)) ∧
      e.Alike (Fields.SameBut [["request", "url", "search"], ["request", "url", "full"]])
        ((⟨[.query], m⟩ : ProcessorChain).process e) := by
  obtain ⟨url, hurl, hsearch⟩ := Fields.textAt?_eq_some_iff.mp hsearch
  obtain ⟨url', hurl', hfull⟩ := Fields.textAt?_eq_some_iff.mp hfull
  obtain rfl : url = url' := Option.some.inj (hurl.symm.trans hurl')
  have hredacted := objectAt?_redact_query (m := m) context
  rw [hurl, Option.map_some] at hredacted
  have hexchanged : replaceText ('?' :: query) ('?' :: redactPairs m ['&'] query)
      (base ++ ('?' :: query ++ fragment)) =
        base ++ ('?' :: redactPairs m ['&'] query ++ fragment) :=
    replaceText_append hbase hfragment _
  refine ⟨Processor.redact m context .query, redactPairs m ['&'] query, ?_, ?_,
    forall₂_redactsPair query, ?_, ?_⟩
  · rw [context_process _ hevent, hcontext]
    rfl
  · refine Fields.textAt?_eq_some_iff.mpr ⟨_, hredacted, ?_⟩
    rw [get?_search_redactUrl, hsearch]
    simp [Json.mapText, redactSearch]
  · refine Fields.textAt?_eq_some_iff.mpr ⟨_, hredacted, ?_⟩
    rw [get?_full_redactUrl hsearch (by simp), hfull]
    simp only [Option.map_some, Json.mapText, String.toList_ofList, redactSearch, hexchanged]
  · have hkept : Option.Rel (Fields.SameBut
        [["request", "url", "search"], ["request", "url", "full"]]) e.context
        (e.context.map (⟨[.query], m⟩ : ProcessorChain).redact) := by
      rw [hcontext]
      exact .some (sameBut_redact_query context)
    cases e with
    | span r => exact absurd rfl (hevent r)
    | transaction r => exact .transaction r hkept
    | error r => exact .error r hkept

/-- An address whose query string has a mark in it, a pair twice, and nothing between two signs. -/
def markedContext : Fields :=
  [("request", .obj [("url", .obj [
    ("full", .str "http://localhost/s?q=?a&&API_key=1=2&q=?a#f"),
    ("search", .str "?q=?a&&API_key=1=2&q=?a")])])]

/-- The one sensitive pair is redacted in both places. -/
theorem ProcessorChain.process_query_markedContext :
    ∃ context' query',
      ((⟨[.query], .ofPatterns ["*key"]⟩ : ProcessorChain).process
        (.transaction { (default : TransactionRecord) with context := markedContext })).context =
          some context' ∧
      List.Forall₂ (RedactsPair (.ofPatterns ["*key"]))
        ["q=?a".toList, [], "API_key=1=2".toList, "q=?a".toList] (query'.splitOn '&') ∧
      context'.textAt? ["request", "url"] "full" =
        some ("http://localhost/s".toList ++ ('?' :: query' ++ "#f".toList)) := by
  have hsearch : markedContext.textAt? ["request", "url"] "search" =
      some ('?' :: "q=?a&&API_key=1=2&q=?a".toList) := by decide +kernel
  have hfull : markedContext.textAt? ["request", "url"] "full" =
      some ("http://localhost/s".toList ++
        ('?' :: "q=?a&&API_key=1=2&q=?a".toList ++ "#f".toList)) := by decide +kernel
  obtain ⟨context', query', hcontext', -, hpairs, hfull', -⟩ :=
    process_query (m := .ofPatterns ["*key"])
      (e := .transaction { (default : TransactionRecord) with context := markedContext })
      (by simp) rfl hsearch hfull (by decide) (by decide)
  exact ⟨context', query', hcontext', hpairs, hfull'⟩

end Telemetry
