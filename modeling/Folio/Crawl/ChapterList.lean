import Folio.Book
import Folio.Crawl.Visit

/-!
# Folio.Crawl.ChapterList

Tables of contents.  The pages of a table are visited in the order in which
links to them are found, none twice and no more than the settings allow.
-/

namespace Folio.Crawler

open Folio.Text Folio.Crawl

/-! ## One page -/

/-- A text that says no. -/
def isFalse (s : String) : Bool :=
  let word := (trim s.toList).map lowerAscii
  word.isEmpty || word == "false".toList || word == "0".toList || word == "null".toList ||
    word == "no".toList

/-- The chapter that an item of a table tells about.  It must have a title, and
a URL unless it heads a volume. -/
def listedChapter? (c : Crawler) (rules : TocRule) (base : String) (item : Rule.Subject) :
    Traced (Option Chapter) := do
  let title ← c.field base item rules.chapterName
  let url ← c.urlField base item rules.chapterUrl
  let volume ← c.field base item rules.isVolume
  let isVolume := !isFalse volume
  if title.isEmpty || (url.isEmpty && !isVolume) then return none
  else return some ⟨title, url, 0, isVolume⟩

/-- The chapters on a page of a table. -/
def listedChapters (c : Crawler) (source : Source) (rule : String) (page : PageText) :
    Traced (List Chapter) := do
  let items ← Rule.elements c.evaluator page.url page.subject rule
  let chapters ← Traced.forEach (c.listedChapter? source.toc page.url) items
  return chapters.filterMap id

/-- The links from a page of a table to other pages of it. -/
def furtherLinks (c : Crawler) (source : Source) (page : PageText) : Traced (List String) :=
  if isBlankText source.toc.nextTocUrl then pure []
  else do
    let texts ← Rule.texts c.evaluator page.url page.subject source.toc.nextTocUrl
    let links := texts.flatMap fun text => (lines text.toList).map String.ofList
    return (links.map (absoluteUrl page.url)).filter fun link => link != "" && link != page.url

/-! ## All pages -/

/-- Pause before a page that is not the first. -/
def pauseAfter (c : Crawler) (visited : List String) : Traced Unit :=
  if visited.isEmpty then pure () else wait c.settings.pageDelay

/-- Visit the pages of a table, at most `remaining` of them.  `queue` holds the
links that have been found, and `visited` the links followed and the URLs they
led to. -/
def visitTable (c : Crawler) (source : Source) (rule : String) (remaining : Nat)
    (queue visited : List String) : Traced (List (Visit (List Chapter))) :=
  match remaining with
  | 0 =>
    if queue.isEmpty then pure []
    else do
      Traced.emit (.tocPageCap c.settings.maxPages)
      pure []
  | remaining + 1 =>
    match queue.dropWhile visited.contains with
    | [] => pure []
    | link :: queue => do
      c.pauseAfter visited
      match ← c.loadLink source link with
      | .error f => pure [⟨link, .error f⟩]
      | .ok page =>
        let visited := page.url :: link :: visited
        let chapters ← c.listedChapters source rule page
        let links ← c.furtherLinks source page
        let queue := queue ++ links.filter fun link => !visited.contains link
        let visits ← c.visitTable source rule remaining queue visited
        pure (⟨link, .ok (page, chapters)⟩ :: visits)

/-- Give chapters their indexes. -/
def numbered (chapters : List Chapter) : List Chapter :=
  chapters.mapIdx fun index chapter => { chapter with index }

/-- The chapters of a book.  The table cannot be read if its first page cannot;
a later page that fails only ends it. -/
def chapterList (c : Crawler) (source : Source) (book : Book) :
    Traced (Except Failure (List Chapter)) := do
  let (order, rule) := ListOrder.read source.toc.chapterList
  let first := absoluteUrl source.url book.contentsUrl
  let visits ← c.visitTable source rule c.settings.maxPages [first] []
  let chapters := numbered (order.apply (Visit.readings visits).flatten)
  match Visit.lastFailure? visits with
  | none => return .ok chapters
  | some (link, f) =>
    if visits.length = 1 then return .error f
    else
      Traced.emit (.tocStopped link f)
      return .ok chapters

end Folio.Crawler
