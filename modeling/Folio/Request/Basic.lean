import Folio.Json.Printer
import Folio.Request.Header
import Folio.Request.Keyword
import Folio.Request.Options
import Folio.Request.Template
import Folio.Source.Basic
import Folio.Url.Link

/-!
# Folio.Request.Basic

Requests for the pages of a source: from the template of a search or an explore
page (`Request.build`), and from a link that a page gives (`Request.link`).
Only templates are filled in; a link is taken as it is.
-/

namespace Folio

open Folio.Text

/-- A request for a page. -/
structure Request where
  method : String
  url : Url
  headers : Request.Headers
  body : Option String
  /-- The charset that the options name for the keyword and the page. -/
  charset : Option String
  /-- How many seconds the answer may take. -/
  timeout : Nat

namespace Request

/-- What holds for all requests. -/
structure Defaults where
  userAgent : String := "Mozilla/5.0 (compatible; bookrule/0.1.0)"
  /-- In seconds. -/
  timeout : Nat := 15
deriving DecidableEq, Repr

/-! ## Parts -/

/-- The URL of a target, resolved against the URL of the source where that is
one. -/
def resolve (baseUrl : String) (target : List Char) : Except Failure Url :=
  let target := trim target
  let url := match Url.parse baseUrl with
    | .ok base => Url.read (some base) target
    | .error _ => Url.read none target
  url.mapError (Failure.invalidUrl (String.ofList target))

/-- A character of the name of a method. -/
def isMethodChar (c : Char) : Bool :=
  isAsciiAlnum c || "!#$%&'*+-.^_`|~".toList.contains c

/-- The method that options name, in capitals; GET where they name none. -/
def methodOf (name : Option String) : Except Failure String :=
  let name := trim (name.getD "").toList
  if name.isEmpty then .ok "GET"
  else if name.all isMethodChar then .ok (String.ofList (name.map upperAscii))
  else .error (.method (String.ofList name))

/-- The value of a header, which must be a text, a number or a truth value. -/
def headerValue? : Json → Option String
  | .string text => some text
  | .number n => some n.text
  | .bool b => some (if b then "true" else "false")
  | .null | .array _ | .object _ => none

/-- Set the headers of options; those without a value are reported. -/
def putOptions (headers : Headers) : List (String × Json) → Traced Headers
  | [] => pure headers
  | (name, value) :: rest =>
    match headerValue? value with
    | some value => putOptions (Headers.put headers name value) rest
    | none => do
      Traced.emit (.headerIgnored name)
      putOptions headers rest

/-- Set the headers of a source. -/
def putSource (fields : List (String × String)) : Headers :=
  fields.foldl (fun headers (name, value) => Headers.put headers name value) []

/-- The text of a body. -/
def bodyText : Json → String
  | .string text => text
  | value => value.text

/-- The body of a request: none with GET.  A keyword is filled in where there
is one. -/
def bodyOf (method : String) (body : Option Json) (encoded : Option (List Char)) :
    Option String :=
  if method == "GET" then none
  else
    body.map fun body =>
      match encoded with
      | some encoded => String.ofList (fillInKeyword encoded (bodyText body).toList)
      | none => bodyText body

/-- The text is a JSON object. -/
def isJsonObject (text : String) : Bool := ((Json.parse? text).bind Json.members?).isSome

/-- The content type of a body: JSON for an object, else a form in the charset
of the options. -/
def contentTypeOf (charset : Option String) (body : String) : String :=
  if isJsonObject body then "application/json"
  else "application/x-www-form-urlencoded; charset=" ++ charset.getD "utf-8"

/-- Supply the content type of a body, if there is one. -/
def supplyContentType (charset body : Option String) (headers : Headers) : Headers :=
  match body with
  | some body => Headers.supply headers "Content-Type" (contentTypeOf charset body)
  | none => headers

/-- Supply the headers that every request has. -/
def supplyDefaults (defaults : Defaults) (headers : Headers) : Headers :=
  let headers := Headers.supply headers "User-Agent" defaults.userAgent
  Headers.supply (Headers.supply headers "Cache-Control" "no-cache") "Pragma" "no-cache"

/-! ## Requests -/

/-- The request for a target with options.  Headers of the options take the
place of those of the source. -/
def prepare (source : Source) (defaults : Defaults) (target : List Char) (options : Options)
    (encoded : Option (List Char)) : Traced (Except Failure Request) :=
  let charset := options.declaredCharset
  match resolve source.url target, methodOf options.method with
  | .error f, _ => pure (.error f)
  | .ok _, .error f => pure (.error f)
  | .ok url, .ok method => do
    let fields ← source.headers
    let headers ← putOptions (putSource fields) options.headers
    let body := bodyOf method options.body encoded
    let headers := supplyDefaults defaults (supplyContentType charset body headers)
    return .ok { method, url, headers, body, charset, timeout := defaults.timeout }

/-- The options of a block; none where there is no block. -/
def readOptions : Option (List Char) → Except Failure Options
  | none => .ok {}
  | some block =>
    match Options.read? block with
    | some options => .ok options
    | none => .error .options

/-- The keyword of a query as it stands in a request; empty where there is
none. -/
def encodedKeyword (query : Query) (charset : Option String) : Traced (Except Failure String) :=
  match query.keyword with
  | some keyword => encodeKeyword keyword charset
  | none => pure (.ok "")

/-- The request for a template that has been filled in but for the keyword. -/
def ofTemplate (source : Source) (defaults : Defaults) (query : Query) (text : List Char) :
    Traced (Except Failure Request) :=
  let (target, block) := splitOptions text
  match readOptions block with
  | .error f => pure (.error f)
  | .ok options => do
    match ← encodedKeyword query options.declaredCharset with
    | .error f => return .error f
    | .ok encoded =>
      let encoded := encoded.toList
      prepare source defaults (fillInKeyword encoded target) options (some encoded)

/-- The request for a template.  Page zero is the first page too. -/
def build (e : Script.Evaluator) (source : Source) (defaults : Defaults) (query : Query)
    (template : String) : Traced (Except Failure Request) :=
  let query := { query with page := max 1 query.page }
  let template := trim template.toList
  if template.isEmpty then pure (.error .emptyTemplate)
  else do
    let text ← runScripts e source.url query scriptLimit template
    ofTemplate source defaults query (fillIn source.url query.page text)

/-- The target of a link and its options.  A block that cannot be read belongs
to the target. -/
def splitLink (link : List Char) : List Char × Options :=
  let (target, block) := splitOptions link
  match readOptions block with
  | .ok options => (target, options)
  | .error _ => (link, {})

/-- The request for a link. -/
def link (source : Source) (defaults : Defaults) (link : String) :
    Traced (Except Failure Request) :=
  let link := trim link.toList
  if link.isEmpty then pure (.error .emptyTemplate)
  else
    let (target, options) := splitLink link
    prepare source defaults target options none

end Request

end Folio
