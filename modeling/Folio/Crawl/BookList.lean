import Folio.Book
import Folio.Crawl.Basic

/-!
# Folio.Crawl.BookList

Books listed on a page of results, and the pages of an explore menu.  Links of
such lists are resolved against the URL of the source.
-/

namespace Folio.Crawler

open Folio.Crawl

/-- The book that an item of a list tells about; none without a name or a
URL. -/
def listedBook? (c : Crawler) (source : Source) (rules : ListRule) (item : Rule.Subject) :
    Traced (Option Book) := do
  let name ← c.field source.url item rules.name
  let bookUrl ← c.urlField source.url item rules.bookUrl
  if name.isEmpty || bookUrl.isEmpty then return none
  else
    let author ← c.field source.url item rules.author
    let intro ← c.field source.url item rules.intro
    let kind ← c.field source.url item rules.kind
    let latestChapter ← c.field source.url item rules.lastChapter
    let coverUrl ← c.urlField source.url item rules.coverUrl
    return some {
      Book.of source.url bookUrl name with
      originName := source.displayName
      author := nonempty? author
      intro := nonempty? intro
      kind := nonempty? kind
      latestChapter := nonempty? latestChapter
      coverUrl := nonempty? coverUrl }

/-- The books that a page lists. -/
def listedBooks (c : Crawler) (source : Source) (rules : ListRule) (page : PageText) :
    Traced (List Book) := do
  let (order, rule) := ListOrder.read rules.bookList
  let items ← Rule.elements c.evaluator source.url page.subject rule
  let books ← Traced.forEach (c.listedBook? source rules) items
  return order.apply (books.filterMap id)

/-- The books on a page of an explore menu. -/
def explore (c : Crawler) (source : Source) (template : String) (page : Nat) :
    Traced (Except Failure (List Book)) := do
  match ← c.loadTemplate source ⟨none, page⟩ template with
  | .error f => return .error f
  | .ok loaded =>
    let books ← c.listedBooks source source.exploreRules loaded
    return .ok books

end Folio.Crawler
