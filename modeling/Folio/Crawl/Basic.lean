import Folio.Page
import Folio.Request.Basic
import Folio.Rule.Evaluation
import Folio.Script.Machine

/-!
# Folio.Crawl.Basic

What a crawl needs: settings, a fetcher that answers requests, and an evaluator
for the scripts of rules.  A fetcher is any function from requests to replies;
nothing is assumed of the pages it gives, of where they lead, or of how long
they take.
-/

namespace Folio

open Folio.Text

namespace Crawl

/-- What holds for all crawls. -/
structure Settings where
  /-- How many sources are searched at the same time. -/
  workers : Nat := 10
  /-- How many pages of a chapter or of a table of contents are read. -/
  maxPages : Nat := 30
  /-- The pause between the pages of a chapter or of a table of contents, in
  milliseconds. -/
  pageDelay : Nat := 300
  request : Request.Defaults := {}
  script : Script.Limits

/-- The answer to a request. -/
structure Reply where
  /-- How long it takes, in milliseconds. -/
  delay : Nat
  /-- A page, or the reason why there is none. -/
  result : Except String Page

/-- What answers requests. -/
abbrev Fetcher := Request → Reply

/-- A page as a crawl sees it: the URL that links on it are resolved against,
and its text. -/
structure PageText where
  url : String
  text : String
deriving DecidableEq, Repr

/-- The text of a page as the subject of rules. -/
def PageText.subject (page : PageText) : Rule.Subject := .text page.text

end Crawl

/-- What crawls. -/
structure Crawler where
  settings : Crawl.Settings
  fetcher : Crawl.Fetcher
  evaluator : Script.Evaluator

namespace Crawl

/-- Time passes. -/
def wait (milliseconds : Nat) : Traced Unit :=
  if milliseconds = 0 then pure () else Traced.emit (.waited milliseconds)

/-- The text of a reply to a request. -/
def receive (request : Request) (reply : Reply) : Traced (Except Failure PageText) :=
  match reply.result with
  | .error reason => pure (.error (.other reason))
  | .ok page => do
    let text ← page.text request.charset
    return text.map fun text => ⟨page.url, text⟩

/-- Send a request. -/
def send (fetcher : Fetcher) (request : Request) : Traced Reply := do
  Traced.emit (.requested request.method request.url.text request.body)
  return fetcher request

end Crawl

namespace Crawler

open Crawl

/-- Load the page that a request asks for. -/
def load (c : Crawler) (request : Except Request.Failure Request) :
    Traced (Except Failure PageText) :=
  match request with
  | .error f => pure (.error (.request f))
  | .ok request => do
    let reply ← send c.fetcher request
    wait reply.delay
    receive request reply

/-- Load the page that a link leads to. -/
def loadLink (c : Crawler) (source : Source) (link : String) :
    Traced (Except Failure PageText) := do
  c.load (← Request.link source c.settings.request link)

/-- Load the page that a template asks for. -/
def loadTemplate (c : Crawler) (source : Source) (query : Request.Query) (template : String) :
    Traced (Except Failure PageText) := do
  c.load (← Request.build c.evaluator source c.settings.request query template)

/-! ## Fields -/

/-- The text of a field, trimmed; a field without a rule is empty. -/
def field (c : Crawler) (base : String) (s : Rule.Subject) (rule : String) : Traced String :=
  if isBlankText rule then pure "" else trimmed <$> Rule.text c.evaluator base s rule

/-- The URL that a field holds; a field without a rule is empty. -/
def urlField (c : Crawler) (base : String) (s : Rule.Subject) (rule : String) : Traced String :=
  if isBlankText rule then pure "" else Rule.url c.evaluator base s rule

end Crawler

namespace Crawl

/-- A text unless it is empty. -/
def nonempty? (s : String) : Option String := if s.isEmpty then none else some s

/-- The order in which a list is given. -/
inductive ListOrder where
  | forward
  | backward
deriving DecidableEq, Repr

/-- The order that a list rule asks for, and the rule: a hyphen before it
reverses the list, a plus sign does not. -/
def ListOrder.read (rule : String) : ListOrder × String :=
  match trim rule.toList with
  | '-' :: rest => (.backward, String.ofList rest)
  | '+' :: rest => (.forward, String.ofList rest)
  | rest => (.forward, String.ofList rest)

/-- A list in an order. -/
def ListOrder.apply {α : Type} (order : ListOrder) (items : List α) : List α :=
  match order with
  | .forward => items
  | .backward => items.reverse

end Crawl

end Folio
