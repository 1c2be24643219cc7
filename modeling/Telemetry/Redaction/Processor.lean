import Telemetry.Json.Basic
import Telemetry.Redaction.FieldMatcher

/-!
# Redaction

Before an event leaves the process, the values of sensitive fields in its context are replaced by
`[REDACTED]`. There are four processors, each for one place where values are found; a chain applies
the chosen ones in order, with one set of sensitive names.

* *Headers* of the request and of the response.
* *Cookies* of the request: as an object, and in the header `cookie`, whose pairs are separated by
  a semicolon and a space.
* The *body* of the request: an object, or the pairs of a text if the content type says that it is
  an encoded form.
* The *query string*: the pairs of `url.search`, and where the same text occurs in `url.full`.

A value replaces another in its place: redaction never adds, removes or reorders fields or pairs.

## Main definitions

* `Processor`, `Processor.ofName?`.
* `redactFields`, `redactPairs`: sensitive fields of an object, and of a text of pairs.
* `Processor.redact`, `ProcessorChain.redact`: the redacted context.
-/

namespace Telemetry

open Text

/-- What stands in the place of a sensitive value. -/
def redacted : String := "[REDACTED]"

/-- One place of the context where values are redacted. -/
inductive Processor
  | headers
  | cookies
  | body
  | query
  deriving DecidableEq, Repr

namespace Processor

/-- The name that settings use. -/
def name : Processor → String
  | .headers => "sanitize_http_headers"
  | .cookies => "sanitize_http_cookies"
  | .body => "sanitize_http_request_body"
  | .query => "sanitize_http_query_string"

/-- All processors, in the order in which they run unless settings say otherwise. -/
def all : List Processor := [.headers, .cookies, .body, .query]

/-- The processor with a name in any ASCII case, possibly at the end of a path with dots. -/
def ofName? (text : String) : Option Processor :=
  let last := ((trim text.toList).splitOn '.').getLastD []
  all.find? fun p => p.name.toList == last.map Char.toLower

end Processor

/-- Names that are the same in any ASCII case. `lower` is in lower case. -/
def isHeaderNamed (lower : String) (name : String) : Bool :=
  name.toList.map Char.toLower == lower.toList

namespace Fields

/-- The fields with the value under `key` changed. -/
def modify (key : String) (f : Json → Json) (fields : Fields) : Fields :=
  fields.map fun (k, v) => if k = key then (k, f v) else (k, v)

/-- The fields with the object under `key` changed; a value of another kind stays. -/
def modifyObject (key : String) (f : Fields → Fields) (fields : Fields) : Fields :=
  fields.modify key fun
    | .obj inner => .obj (f inner)
    | v => v

/-- The object at the end of a path of keys. -/
def objectAt? : List String → Fields → Option Fields
  | [], fields => some fields
  | key :: path, fields => ((fields.get? key).bind Json.fields?).bind (objectAt? path)

end Fields

/-- The fields with sensitive values replaced. -/
def redactFields (m : FieldMatcher) (fields : Fields) : Fields :=
  fields.map fun (k, v) => if m.hits k.toList then (k, .str redacted) else (k, v)

/-- The pair `key=value` with its value replaced if its key is sensitive. -/
def redactPair (m : FieldMatcher) (pair : List Char) : List Char :=
  match splitOnce? '=' pair with
  | some (key, _) => if m.hits key then key ++ '=' :: redacted.toList else pair
  | none => pair

/-- The text with the values of sensitive pairs replaced. -/
def redactPairs (m : FieldMatcher) (sep text : List Char) : List Char :=
  List.intercalate sep ((splitText sep text).map (redactPair m))

/-- The content type of an encoded form, up to its parameters. -/
def formContentType : String := "application/x-www-form-urlencoded"

/-- Some header of the request says that the body is an encoded form. -/
def isForm (context : Fields) : Bool :=
  match context.objectAt? ["request", "headers"] with
  | some headers => headers.any fun (k, v) =>
      isHeaderNamed "content-type" k &&
        match v with
        | .str s => beginsWith formContentType.toList s.toList
        | _ => false
  | none => false

/-- The query string with the values of sensitive pairs replaced; a question mark at its front is
set aside. -/
def redactSearch (m : FieldMatcher) (search : List Char) : List Char :=
  match search with
  | '?' :: query => '?' :: redactPairs m ['&'] query
  | query => redactPairs m ['&'] query

/-- The address with its query string redacted, also where it occurs in the full address. -/
def redactUrl (m : FieldMatcher) (url : Fields) : Fields :=
  match url.get? "search" with
  | some (.str search) =>
    if search.toList.contains '=' then
      let clean := redactSearch m search.toList
      let url := url.modify "full" fun
        | .str full => .str (String.ofList (replaceText search.toList clean full.toList))
        | v => v
      url.modify "search" fun _ => .str (String.ofList clean)
    else url
  | _ => url

/-- The request with its body redacted. -/
def redactBody (m : FieldMatcher) (form : Bool) (request : Fields) : Fields :=
  request.modify "body" fun
    | .obj body => .obj (redactFields m body)
    | .str body =>
      .str (if form then String.ofList (redactPairs m ['&'] body.toList) else body)
    | v => v

/-- The request headers with the cookie header redacted pair by pair. -/
def redactCookieHeader (m : FieldMatcher) (headers : Fields) : Fields :=
  headers.map fun (k, v) =>
    match isHeaderNamed "cookie" k, v with
    | true, .str cookie => (k, .str (String.ofList (redactPairs m [';', ' '] cookie.toList)))
    | _, v => (k, v)

/-- The context with the values of one place redacted. -/
def Processor.redact (m : FieldMatcher) (context : Fields) : Processor → Fields
  | .headers =>
    (context.modifyObject "request" (·.modifyObject "headers" (redactFields m)))
      |>.modifyObject "response" (·.modifyObject "headers" (redactFields m))
  | .cookies =>
    context.modifyObject "request" fun request =>
      (request.modifyObject "cookies" (redactFields m)).modifyObject "headers"
        (redactCookieHeader m)
  | .body => context.modifyObject "request" (redactBody m (isForm context))
  | .query => context.modifyObject "request" (·.modifyObject "url" (redactUrl m))

/-- Processors in the order in which they are applied, and the names they look for. -/
structure ProcessorChain where
  processors : List Processor
  fields : FieldMatcher
  deriving DecidableEq

namespace ProcessorChain

/-- The chain of some processors for some patterns. -/
def ofPatterns (processors : List Processor) (patterns : List String) : ProcessorChain :=
  ⟨processors, .ofPatterns patterns⟩

/-- The chain that changes nothing. -/
def empty : ProcessorChain := ⟨[], ⟨[]⟩⟩

/-- The context with every processor applied. -/
def redact (chain : ProcessorChain) (context : Fields) : Fields :=
  chain.processors.foldl (fun context p => p.redact chain.fields context) context

end ProcessorChain

end Telemetry
