import Folio.Book
import Folio.Crawl.Basic

/-!
# Folio.Crawl.BookInfo

The details of a book from its own page.  What the page tells takes the place
of what was known; what it does not tell stays.
-/

namespace Folio.Crawler

open Folio.Text Folio.Crawl

/-- The part of a page that tells about the book: the first element that the
rule for it selects, else the whole page. -/
def infoPart (c : Crawler) (page : PageText) (rule : String) : Traced Rule.Subject :=
  if isBlankText rule then pure page.subject
  else do
    let parts ← Rule.elements c.evaluator page.url page.subject rule
    return parts.head?.getD page.subject

/-- What a page tells, or else what was known. -/
def updated (known : Option String) (told : String) : Option String := nonempty? told <|> known

/-- A book with the details that its page tells. -/
def withDetails (c : Crawler) (source : Source) (book : Book) (page : PageText) : Traced Book := do
  let rules := source.bookInfo
  let part ← c.infoPart page rules.init
  let name ← c.field page.url part rules.name
  let author ← c.field page.url part rules.author
  let intro ← c.field page.url part rules.intro
  let kind ← c.field page.url part rules.kind
  let latestChapter ← c.field page.url part rules.lastChapter
  let coverUrl ← c.urlField page.url part rules.coverUrl
  let tocUrl ← c.urlField page.url part rules.tocUrl
  return { book with
    name := (nonempty? name).getD book.name
    author := updated book.author author
    intro := updated book.intro intro
    kind := updated book.kind kind
    latestChapter := updated book.latestChapter latestChapter
    coverUrl := updated book.coverUrl coverUrl
    tocUrl := updated book.tocUrl tocUrl
    originName := (nonempty? book.originName).getD source.displayName }

/-- Fill in the details of a book. -/
def bookInfo (c : Crawler) (source : Source) (book : Book) : Traced (Except Failure Book) := do
  match ← c.loadLink source book.bookUrl with
  | .error f => return .error f
  | .ok page =>
    let book ← c.withDetails source book page
    return .ok book

end Folio.Crawler
