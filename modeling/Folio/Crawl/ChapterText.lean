import Folio.Book
import Folio.Crawl.Visit
import Folio.Typeset

/-!
# Folio.Crawl.ChapterText

The text of a chapter, which may be spread over several pages.  The pages are
followed from one to the next until there is no link, the link leads to a page
already read or to the next chapter, a page fails, or no more may be read.
-/

namespace Folio.Crawler

open Folio.Text Folio.Crawl

/-- The rules for the pages of a chapter, made ready. -/
structure ChapterRule where
  body : String
  next : String
  /-- The URL of the next chapter. -/
  following : Option String

/-- The body of a page and its link to the next one. -/
def readPage (c : Crawler) (rule : ChapterRule) (page : PageText) :
    Traced (String × Option String) := do
  let body ← Rule.markup c.evaluator page.url page.subject rule.body
  let next ← c.urlField page.url page.subject rule.next
  return (body, nonempty? next)

/-- Visit the pages of a chapter from a link on, at most `remaining` of them.
`visited` holds the links followed and the URLs they led to. -/
def visitChapter (c : Crawler) (source : Source) (rule : ChapterRule) (remaining : Nat)
    (link : String) (visited : List String) : Traced (List (Visit String)) :=
  match remaining with
  | 0 => do
    Traced.emit (.contentPageCap c.settings.maxPages)
    pure []
  | remaining + 1 => do
    match ← c.loadLink source link with
    | .error f => pure [⟨link, .error f⟩]
    | .ok page =>
      let visited := page.url :: link :: visited
      let (body, next) ← c.readPage rule page
      let visits ← match next with
        | none => pure []
        | some next =>
          if rule.following = some next || visited.contains next then do
            Traced.emit (.contentEnd next)
            pure []
          else do
            wait c.settings.pageDelay
            c.visitChapter source rule remaining next visited
      pure (⟨link, .ok (page, body)⟩ :: visits)

/-- The rules for the pages of a chapter of a source.  Where the rule for the
body names nothing within an element, the markup of the element is meant. -/
def chapterRule (source : Source) (nextChapter : Option String) : ChapterRule where
  body := Rule.withDefaultLeaf source.content.content "html"
  next := trimmed source.content.nextContentUrl
  following := (nextChapter.map (absoluteUrl source.url)).bind nonempty?

/-- The text of a chapter.  A page that fails ends it. -/
def content (c : Crawler) (source : Source) (chapterUrl : String) (nextChapter : Option String) :
    Traced Content := do
  let rule := chapterRule source nextChapter
  let first := absoluteUrl source.url chapterUrl
  let visits ← c.visitChapter source rule c.settings.maxPages first []
  match Visit.lastFailure? visits with
  | some (link, f) => Traced.emit (.contentFailed link f)
  | none => pure ()
  let bodies := Visit.readings visits
  let markup := "\n".intercalate (bodies.filter (· != ""))
  let text ← Typeset.typeset markup source.content.replaceRegex
  return ⟨chapterUrl, text, bodies.length⟩

end Folio.Crawler
