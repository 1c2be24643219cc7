import Telemetry.Proofs.Redaction.Idempotence
import Telemetry.Proofs.Redaction.Monotonicity
import Telemetry.Proofs.Text.Trimming

/-!
# Which cookies of a header can still be read

A cookie header is redacted piece by piece, and the pieces are what stands between semicolons that a
space follows. Whoever receives the header cuts it at every semicolon. Where all of these have their
space, the two agree, and no sensitive cookie can be read afterwards.

Where a space is missing, several cookies are one piece. It goes by the name of its first equals
sign: if that is sensitive, everything after it is overwritten, and if not, the whole piece stays,
whatever the other cookies in it are called. So there is an exact answer to what can be read. It is
the sensitive cookies that are not the first of their piece, in pieces that go by another name.

## Main definitions

* `ShowsCookie`: a cookie that should not be readable, and is.
* `HasSensitiveName`: the name that a piece goes by is sensitive.
* `WellSpaced`: every semicolon between two cookies is followed by a space.

## Main results

* `showsCookie_redactPairs_iff`: which cookies can be read in a redacted header.
* `ProcessorChain.process_cookies`: none in a well-spaced one.
* `ProcessorChain.not_process_cookies`: one in a header where a space is missing.
-/

namespace Telemetry

open Text

variable {m : FieldMatcher} {s piece first pre cookie : List Char} {pieces : List (List Char)}

variable (m) in
/-- A cookie with a sensitive name, whose value can be read. White space around the name does not
count. -/
def ShowsCookie (cookie : List Char) : Prop :=
  ∃ name value, '=' ∉ name ∧ cookie = name ++ '=' :: value ∧ m.hits (trim name) = true ∧
    value ≠ redacted.toList

variable (m) in
/-- A piece of a header that goes by a sensitive name. -/
def HasSensitiveName (piece : List Char) : Prop :=
  ∃ name value, '=' ∉ name ∧ piece = name ++ '=' :: value ∧ m.hits name = true

/-- Every semicolon of a header is followed by a space, or ends it. -/
def WellSpaced (header : List Char) : Prop :=
  ∀ a b, header = a ++ ';' :: b → b = [] ∨ b.head? = some ' '

/-! ### Cookies -/

/-- Names are compared without the white space around them. -/
theorem hits_trim (name : List Char) : m.hits (trim name) = m.hits name := by
  simp [FieldMatcher.hits, FieldMatcher.normalize]

theorem ShowsCookie.equals_mem (h : ShowsCookie m cookie) : '=' ∈ cookie := by
  obtain ⟨name, value, -, rfl, -, -⟩ := h
  simp

/-- White space before a cookie makes no difference. -/
theorem showsCookie_append (hpre : AllBlank pre) :
    ShowsCookie m (pre ++ cookie) ↔ ShowsCookie m cookie := by
  have hnot : '=' ∉ pre := fun h => absurd (hpre _ h) (by decide)
  constructor
  · rintro ⟨name, value, hname, heq, hhits, hvalue⟩
    rcases List.append_eq_append_iff.mp heq with ⟨rest, rfl, rfl⟩ | ⟨rest, rfl, hrest⟩
    · refine ⟨rest, value, fun h => hname (List.mem_append_right pre h), rfl, ?_, hvalue⟩
      rwa [trim_append_left hpre] at hhits
    · -- the equals sign would be white space
      cases rest with
      | nil =>
        rw [List.append_nil] at hpre
        have hblank : trim name = trim [] := by simpa using trim_append_left hpre []
        exact ⟨[], value, List.not_mem_nil, hrest.symm, hblank ▸ hhits, hvalue⟩
      | cons c rest =>
        obtain rfl : '=' = c := (List.cons.inj hrest).1
        exact absurd (by simp) hnot
  · rintro ⟨name, value, hname, rfl, hhits, hvalue⟩
    refine ⟨pre ++ name, value, ?_, by simp, ?_, hvalue⟩
    · exact fun h => (List.mem_append.mp h).elim hnot hname
    · rwa [trim_append_left hpre]

/-! ### One piece -/

theorem redactPair_of_not_hasSensitiveName (h : ¬ HasSensitiveName m piece) :
    redactPair m piece = piece := by
  rcases redactPair_cases m piece with heq | ⟨name, value, hname, hhits, rfl, -⟩
  · exact heq
  · exact absurd ⟨name, value, hname, rfl, hhits⟩ h

/-- The first cookie of a piece gives the piece its name. -/
theorem not_showsCookie_first (h : ¬ HasSensitiveName m piece)
    (hpieces : piece.splitOn ';' = first :: pieces) : ¬ ShowsCookie m first := by
  rintro ⟨name, value, hname, rfl, hhits, -⟩
  rw [← splitText_singleton] at hpieces
  obtain ⟨rest, rfl⟩ := prefix_of_splitText (List.cons_ne_nil _ _) hpieces
  rw [hits_trim] at hhits
  exact h ⟨name, value ++ rest, hname, by simp, hhits⟩

/-- Nothing can be read of a piece that has been overwritten. -/
theorem not_showsCookie_of_mem_splitOn {name : List Char} (hname : '=' ∉ name)
    (hcookie : cookie ∈ (name ++ '=' :: redacted.toList).splitOn ';') : ¬ ShowsCookie m cookie := by
  have hnot : ';' ∉ '=' :: redacted.toList := by decide
  obtain ⟨pieces, last, hsplit, happend⟩ := exists_splitOn_append hnot name
  have hequals : ∀ p ∈ name.splitOn ';', '=' ∉ p :=
    fun p hp h => hname (subset_of_mem_splitOn hp h)
  rw [hsplit] at hequals
  rw [happend] at hcookie
  intro hshows
  rcases List.mem_append.mp hcookie with hcookie | hcookie
  · exact hequals cookie (List.mem_append_left _ hcookie) hshows.equals_mem
  · obtain rfl := List.mem_singleton.mp hcookie
    obtain ⟨name', value, hname', heq, -, hvalue⟩ := hshows
    exact hvalue (pair_inj (hequals last (by simp)) hname' heq).2.symm

variable (m) in
/-- **What can be read of a redacted piece**: its sensitive cookies but for the first, if the piece
goes by another name. -/
theorem showsCookie_redactPair_iff (hpre : AllBlank pre) (piece cookie : List Char) :
    cookie ∈ (pre ++ redactPair m piece).splitOn ';' ∧ ShowsCookie m cookie ↔
      ¬ HasSensitiveName m piece ∧ cookie ∈ (piece.splitOn ';').tail ∧ ShowsCookie m cookie := by
  have hnot : ';' ∉ pre := fun h => absurd (hpre _ h) (by decide)
  by_cases h : HasSensitiveName m piece
  · obtain ⟨name, value, hname, rfl, hhits⟩ := h
    have hname' : '=' ∉ pre ++ name := fun hmem => (List.mem_append.mp hmem).elim
      (fun hmem => absurd (hpre _ hmem) (by decide)) hname
    rw [redactPair_of_hits m hname hhits, ← List.append_assoc]
    refine iff_of_false ?_ ?_
    · exact fun hcookie => not_showsCookie_of_mem_splitOn hname' hcookie.1 hcookie.2
    · exact fun hcookie => hcookie.1 ⟨name, value, hname, rfl, hhits⟩
  · obtain ⟨first, pieces, hpieces, happend⟩ := exists_append_splitOn hnot piece
    have hfirst : ¬ ShowsCookie m (pre ++ first) :=
      (showsCookie_append hpre).not.mpr (not_showsCookie_first h hpieces)
    rw [redactPair_of_not_hasSensitiveName h, happend, hpieces, List.tail_cons, List.mem_cons]
    constructor
    · rintro ⟨rfl | hcookie, hshows⟩
      · exact absurd hshows hfirst
      · exact ⟨h, hcookie, hshows⟩
    · rintro ⟨-, hcookie, hshows⟩
      exact ⟨.inr hcookie, hshows⟩

/-! ### The whole header -/

/-- The cookies of a header are those of its pieces, of which all but the first come after a
space. -/
theorem splitOn_intercalate_cookie (piece : List Char) (pieces : List (List Char)) :
    (List.intercalate [';', ' '] (piece :: pieces)).splitOn ';' =
      piece.splitOn ';' ++ pieces.flatMap fun p => ([' '] ++ p).splitOn ';' := by
  induction pieces generalizing piece with
  | nil => simp
  | cons next pieces ih =>
    have hspace : ';' ∉ [' '] := by decide
    obtain ⟨first, rest, hnext, happend⟩ := exists_append_splitOn hspace next
    obtain ⟨first', rest', hwhole, happend'⟩ :=
      exists_append_splitOn hspace (List.intercalate [';', ' '] (next :: pieces))
    rw [ih, hnext, List.cons_append, List.cons.injEq] at hwhole
    obtain ⟨rfl, rfl⟩ := hwhole
    rw [List.intercalate_cons_cons, List.append_assoc, List.cons_append,
      List.splitOn_append_cons_self, happend', List.flatMap_cons, happend]
    rfl

/-- **Which cookies can be read in a redacted header.** -/
theorem showsCookie_redactPairs_iff (s cookie : List Char) :
    cookie ∈ (redactPairs m [';', ' '] s).splitOn ';' ∧ ShowsCookie m cookie ↔
      ∃ piece ∈ splitText [';', ' '] s, ¬ HasSensitiveName m piece ∧
        cookie ∈ (piece.splitOn ';').tail ∧ ShowsCookie m cookie := by
  have hnone : AllBlank [] := by simp [AllBlank]
  have hspace : AllBlank [' '] := by
    rw [AllBlank, List.forall_mem_singleton]
    decide
  obtain ⟨piece, pieces, hpieces⟩ :=
    List.exists_cons_of_ne_nil (splitText_ne_nil pairSeparator_cookie.ne_nil s)
  have hfirst := showsCookie_redactPair_iff m hnone piece cookie
  have hrest := fun p => showsCookie_redactPair_iff m hspace p cookie
  rw [redactPairs, hpieces, List.map_cons, splitOn_intercalate_cookie, List.mem_append,
    List.mem_flatMap, or_and_right, ← List.nil_append (redactPair m piece), hfirst,
    List.exists_mem_cons_iff]
  refine or_congr_right ⟨?_, ?_⟩
  · rintro ⟨⟨p', hp', hcookie⟩, hshows⟩
    obtain ⟨p, hp, rfl⟩ := List.mem_map.mp hp'
    exact ⟨p, hp, (hrest p).mp ⟨hcookie, hshows⟩⟩
  · rintro ⟨p, hp, hstays⟩
    obtain ⟨hcookie, hshows⟩ := (hrest p).mpr hstays
    exact ⟨⟨_, List.mem_map_of_mem hp, hcookie⟩, hshows⟩

/-! ### Spaces -/

theorem WellSpaced.of_append (pre : List Char) (h : WellSpaced (pre ++ s)) : WellSpaced s :=
  fun a b heq => h (pre ++ a) b (by rw [heq, List.append_assoc])

theorem wellSpaced_cons {c : Char} :
    WellSpaced (c :: s) ↔ (c = ';' → s = [] ∨ s.head? = some ' ') ∧ WellSpaced s := by
  constructor
  · intro h
    exact ⟨fun hc => h [] s (by rw [hc, List.nil_append]), .of_append [c] h⟩
  · rintro ⟨hc, hs⟩ a b heq
    cases a with
    | nil =>
      obtain ⟨rfl, rfl⟩ := List.cons.inj heq
      exact hc rfl
    | cons d a => exact hs a b (List.cons.inj heq).2

instance decidableWellSpaced : (s : List Char) → Decidable (WellSpaced s)
  | [] => isTrue fun _ _ h => absurd h (by simp)
  | c :: s =>
    have := decidableWellSpaced s
    decidable_of_iff _ wellSpaced_cons.symm

/-- In a well-spaced header, a semicolon can only be the end of a piece. -/
theorem WellSpaced.eq_nil_of_mem_splitText (h : WellSpaced s)
    (hpiece : piece ∈ splitText [';', ' '] s) {a b : List Char} (heq : piece = a ++ ';' :: b) :
    b = [] := by
  have hne : [';', ' '] ≠ [] := by simp
  induction s using splitText_induction hne generalizing piece a with
  | nil => simp_all
  | cut s ih =>
    rw [splitText_append_self hne, List.mem_cons] at hpiece
    rcases hpiece with rfl | hpiece
    · simp at heq
    · exact ih (h.of_append _) hpiece heq
  | keep c s hfront ih =>
    obtain ⟨q, rest, hpieces⟩ := List.exists_cons_of_ne_nil (splitText_ne_nil hne s)
    have hs : WellSpaced s := WellSpaced.of_append [c] h
    rw [splitText_cons hfront, hpieces, List.modifyHead_cons, List.mem_cons] at hpiece
    rcases hpiece with rfl | hpiece
    · cases a with
      | nil =>
        obtain ⟨rfl, rfl⟩ := List.cons.inj heq
        rcases h [] s rfl with rfl | hspace
        · exact (List.cons.inj hpieces).1.symm
        · obtain ⟨t, rfl⟩ := List.head?_eq_some_iff.mp hspace
          exact absurd (List.prefix_append [';', ' '] t) hfront
      | cons d a =>
        exact ih hs (by simp [hpieces]) (List.cons.inj heq).2
    · exact ih hs (by simp [hpieces, hpiece]) heq

/-- **No sensitive cookie can be read in a well-spaced header** after redaction. -/
theorem WellSpaced.not_showsCookie (h : WellSpaced s)
    (hcookie : cookie ∈ (redactPairs m [';', ' '] s).splitOn ';') : ¬ ShowsCookie m cookie := by
  intro hshows
  obtain ⟨piece, hpiece, -, htail, -⟩ := (showsCookie_redactPairs_iff s cookie).mp ⟨hcookie, hshows⟩
  have hend {a b : List Char} (heq : piece = a ++ ';' :: b) : b = [] :=
    h.eq_nil_of_mem_splitText hpiece heq
  by_cases hmem : ';' ∈ piece
  · obtain ⟨a, b, rfl, ha⟩ := List.eq_append_cons_of_mem hmem
    obtain rfl := hend rfl
    rw [List.splitOn_append_cons_self, List.splitOn_eq_singleton ha] at htail
    obtain rfl : cookie = [] := by simpa using htail
    simpa using hshows.equals_mem
  · rw [List.splitOn_eq_singleton hmem] at htail
    simp at htail

/-! ### Events -/

/-- A cookie header after the processor for cookies. -/
theorem textAt?_redact_cookies {name : String} (hname : isHeaderNamed "cookie" name = true)
    (context : Fields) :
    Fields.textAt? ["request", "headers"] name (Processor.redact m context .cookies) =
      (context.textAt? ["request", "headers"] name).map (redactPairs m [';', ' ']) := by
  have hheaders : Fields.objectAt? ["request", "headers"] (Processor.redact m context .cookies) =
      (context.objectAt? ["request", "headers"]).map (redactCookieHeader m) := by
    rw [Processor.redact_eq_redactWith, Processor.objectAt?_redactWith, Processor.requestHeaders]
  refine Fields.textAt?_eq_of_objectAt? (H := Json.mapText (redactPairs m [';', ' '])) hheaders
    (fun headers => ?_) _ fun v => by cases v <;> rfl
  rw [redactCookieHeader_eq_map, Fields.get?_map fun k v =>
    if isHeaderNamed "cookie" k then v.mapText (redactPairs m [';', ' ']) else v]
  simp only [if_pos hname]

/-- **Which cookies can be read after redaction.** A cookie header that is a text stays one, and
what can be read in it are the sensitive cookies that are not the first of their piece, in pieces
that go by another name. Where a space follows every semicolon there are none. -/
theorem ProcessorChain.process_cookies {e : Event} {context : Fields} {name : String}
    {header : List Char} (hevent : ∀ r, e ≠ .span r) (hcontext : e.context = some context)
    (hname : isHeaderNamed "cookie" name = true)
    (hheader : context.textAt? ["request", "headers"] name = some header) :
    ∃ context' header',
      ((⟨[.cookies], m⟩ : ProcessorChain).process e).context = some context' ∧
      context'.textAt? ["request", "headers"] name = some header' ∧
      (∀ cookie, cookie ∈ header'.splitOn ';' ∧ ShowsCookie m cookie ↔
        ∃ piece ∈ splitText [';', ' '] header, ¬ HasSensitiveName m piece ∧
          cookie ∈ (piece.splitOn ';').tail ∧ ShowsCookie m cookie) ∧
      (WellSpaced header → ∀ cookie ∈ header'.splitOn ';', ¬ ShowsCookie m cookie) := by
  refine ⟨Processor.redact m context .cookies, redactPairs m [';', ' '] header, ?_, ?_,
    showsCookie_redactPairs_iff header, fun h _ hcookie => h.not_showsCookie hcookie⟩
  · rw [context_process _ hevent, hcontext]
    rfl
  · rw [textAt?_redact_cookies hname, hheader, Option.map_some]

/-- A request with the header `Cookie`. -/
def cookieContext (header : String) : Fields :=
  [("request", .obj [("headers", .obj [("Cookie", .str header)])])]

/-- Three cookies with spaces between them, one of them sensitive. -/
theorem ProcessorChain.process_cookies_wellSpaced :
    WellSpaced "theme=dark; SESSIONID =a=b; q=1".toList ∧
      ∃ context' header',
        ((⟨[.cookies], .ofPatterns ["session*"]⟩ : ProcessorChain).process
          (.transaction { (default : TransactionRecord) with
            context := cookieContext "theme=dark; SESSIONID =a=b; q=1" })).context =
              some context' ∧
        context'.textAt? ["request", "headers"] "Cookie" = some header' ∧
        ∀ cookie ∈ header'.splitOn ';', ¬ ShowsCookie (.ofPatterns ["session*"]) cookie := by
  have hspaced : WellSpaced "theme=dark; SESSIONID =a=b; q=1".toList := by decide
  have hheader : (cookieContext "theme=dark; SESSIONID =a=b; q=1").textAt?
      ["request", "headers"] "Cookie" = some "theme=dark; SESSIONID =a=b; q=1".toList := by
    decide +kernel
  obtain ⟨context', header', hcontext', hheader', -, hnone⟩ :=
    process_cookies (m := .ofPatterns ["session*"])
      (e := .transaction { (default : TransactionRecord) with
        context := cookieContext "theme=dark; SESSIONID =a=b; q=1" }) (by simp) rfl (by decide)
      hheader
  exact ⟨hspaced, context', header', hcontext', hheader', hnone hspaced⟩

/-- A session can be read where no space stands before it. -/
theorem ProcessorChain.not_process_cookies :
    ¬ ∀ (m : FieldMatcher) (e : Event) (context context' : Fields) (name : String)
      (header header' : List Char), (∀ r, e ≠ .span r) → e.context = some context →
      isHeaderNamed "cookie" name = true →
      context.textAt? ["request", "headers"] name = some header →
      ((⟨[.cookies], m⟩ : ProcessorChain).process e).context = some context' →
      context'.textAt? ["request", "headers"] name = some header' →
      ∀ cookie ∈ header'.splitOn ';', ¬ ShowsCookie m cookie := by
  intro h
  refine h (.ofPatterns ["sessionid"])
    (.transaction { (default : TransactionRecord) with
      context := cookieContext "theme=dark;sessionid=1" })
    (cookieContext "theme=dark;sessionid=1") _ "Cookie" "theme=dark;sessionid=1".toList
    "theme=dark;sessionid=1".toList (by simp) rfl (by decide) (by decide +kernel) rfl
    (by decide +kernel) "sessionid=1".toList (by decide) ?_
  exact ⟨"sessionid".toList, ['1'], by decide, by decide, by decide +kernel, by decide⟩

end Telemetry
