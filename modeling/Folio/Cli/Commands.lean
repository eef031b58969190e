import Folio.Cli.Invocation
import Folio.Config
import Folio.Crawl.BookInfo
import Folio.Crawl.ChapterList
import Folio.Crawl.ChapterText
import Folio.Crawl.Search
import Folio.Source.Json

/-!
# Folio.Cli.Commands

Carrying out commands.  A command prints lines and may fail; the lines that
come before its failure are printed all the same.
-/

namespace Folio.Cli

/-- What a command prints, and why it fails if it does. -/
structure Outcome where
  lines : List String
  failure : Option Failure := none

namespace Outcome

/-- What is printed, every line ended. -/
def output (o : Outcome) : String := String.join (o.lines.map (· ++ "\n"))

/-- A failure and nothing printed. -/
def failed (f : Failure) : Outcome := ⟨[], some f⟩

/-- The lines of a result, or its failure. -/
def ofResult {α : Type} (lines : α → List String) : Except Failure α → Outcome
  | .ok a => ⟨lines a, none⟩
  | .error f => failed f

/-- The outcome with lines before it. -/
def after (lines : List String) (o : Outcome) : Outcome := { o with lines := lines ++ o.lines }

end Outcome

/-! ## Lines -/

/-- A book in a list. -/
def bookLine (b : Book) : String :=
  "  " ++ b.name ++ " / " ++ b.displayAuthor ++ "  " ++ b.bookUrl

/-- A count of what was found, after an empty line. -/
def countLine (count : Nat) (noun : String) : String := "\n" ++ toString count ++ " " ++ noun

/-- A source in a list; a cross marks one that is not enabled. -/
def sourceLine (s : Source) : String :=
  let status := if s.enabled then " " else "x"
  "[" ++ status ++ "] " ++ s.displayName ++ " - " ++ s.url ++ " " ++ s.group.getD ""

/-- A number, set to the right of five columns. -/
def column (n : Nat) : String :=
  let digits := toString n
  String.ofList (List.replicate (5 - digits.length) ' ') ++ digits

/-- A chapter in a table of contents. -/
def chapterLine (c : Chapter) : String :=
  if c.isVolume then "== " ++ c.title
  else column c.index ++ "  " ++ c.title ++ "  " ++ c.url

/-- What one source found. -/
def batchLines (b : SearchBatch) : List String :=
  ("\n== " ++ b.sourceName ++ " (" ++ toString b.books.length ++ " results)") ::
    b.books.map bookLine

/-- The details of a book; those that are not known are left out. -/
def bookLines (b : Book) : List String :=
  let optional (label : String) (value : Option String) : List String :=
    (value.map (label ++ ·)).toList
  ["Name:    " ++ b.name, "Author:  " ++ b.displayAuthor] ++
    optional "Kind:    " b.kind ++ optional "Latest:  " b.latestChapter ++
    optional "Cover:   " b.coverUrl ++ ["TOC:     " ++ b.contentsUrl] ++ optional "\n" b.intro

/-- The chapters of a book. -/
def chapterLines (chapters : List Chapter) : List String :=
  chapters.map chapterLine ++ [countLine chapters.length "chapters"]

/-- The explore menu of a source. -/
def menuLines (s : Source) : List String :=
  match s.exploreEntries with
  | [] => [s.displayName ++ " has no explore entries"]
  | entries => entries.map fun e => e.title ++ "\t" ++ e.url

/-- The text of a chapter. -/
def contentLines (chapterUrl : String) (c : Content) : List String :=
  [if c.text.isEmpty then "No content found at " ++ chapterUrl else c.text]

/-! ## Commands -/

/-- Search all sources. -/
def search (c : Crawler) (sources : List Source) (keyword : String) : Traced Outcome :=
  let count := (sources.filter Source.isSearchable).length
  if count = 0 then pure ⟨["No searchable sources"], none⟩
  else do
    let head := "Searching " ++ toString count ++ " sources for \"" ++ keyword ++ "\" (" ++
      toString c.settings.workers ++ " at a time)..."
    let result ← c.search sources keyword none
    let batches := result.deliveries.map (·.batch)
    let total := (batches.flatMap (·.books)).length
    return ⟨head :: batches.flatMap batchLines ++ [countLine total "results"], none⟩

/-- Show a page of an entry of an explore menu. -/
def explore (c : Crawler) (entry : String) (page : Nat) (s : Source) : Traced Outcome := do
  let books ← c.explore s entry page
  return .ofResult (fun books => books.map bookLine ++ [countLine books.length "books"]) books

/-- Show what the page of a book tells. -/
def info (c : Crawler) (bookUrl : String) (s : Source) : Traced Outcome := do
  let book ← c.bookInfo s (Book.of s.url bookUrl "")
  return .ofResult bookLines book

/-- List the chapters of a book, whose own page tells where its table of
contents is. -/
def toc (c : Crawler) (bookUrl : String) (s : Source) : Traced Outcome := do
  match ← c.bookInfo s (Book.of s.url bookUrl "") with
  | .error f => return .failed f
  | .ok book =>
    let chapters ← c.chapterList s book
    return .ofResult chapterLines chapters

/-- Show the text of a chapter. -/
def content (c : Crawler) (chapterUrl : String) (next : Option String) (s : Source) :
    Traced Outcome := do
  let content ← c.content s chapterUrl next
  return ⟨contentLines chapterUrl content, none⟩

/-- Go on with a source that is asked for by its URL. -/
def withSource (sources : List Source) (url : String) (use : Source → Traced Outcome) :
    Traced Outcome :=
  match Source.find sources url with
  | .ok s => use s
  | .error f => pure (.failed f)

/-- Carry out a command with a list of sources. -/
def runWith (c : Crawler) (sources : List Source) : Command → Traced Outcome
  | .search keyword => search c sources keyword
  | .sources => pure ⟨sources.map sourceLine, none⟩
  | .menu url => withSource sources url fun s => pure ⟨menuLines s, none⟩
  | .explore url entry page => withSource sources url (explore c entry page)
  | .info url bookUrl => withSource sources url (info c bookUrl)
  | .toc url bookUrl => withSource sources url (toc c bookUrl)
  | .content url chapterUrl next => withSource sources url (content c chapterUrl next)

/-- Carry out a command; `file` is the content of the file of the sources, if
it can be read. -/
def run (c : Crawler) (file : Option String) (command : Command) : Traced Outcome :=
  match file with
  | none => pure (.failed .io)
  | some text =>
    match Source.readList? text with
    | .error f => pure (.failed f)
    | .ok [] => (Outcome.after ["No sources configured"]) <$> runWith c [] command
    | .ok sources => runWith c sources command

/-- The configuration with the number of workers that a command line asks
for. -/
def configured (config : Config) (i : Invocation) : Config :=
  match i.workers with
  | some workers => { config with fetch := { config.fetch with workers } }
  | none => config

/-- The file of the sources: the one that a command line names, or the one of
the configuration. -/
def sourcesFile (config : Config) (root : String) (i : Invocation) : String :=
  i.sources.getD (config.sourcesFile root)

end Folio.Cli
