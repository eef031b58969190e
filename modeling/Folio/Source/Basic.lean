import Folio.Event
import Folio.Json.Printer
import Folio.Json.Reader
import Folio.Text.Blank

/-!
# Folio.Source.Basic

Sources: the sites that books are read from, with the rules that tell how.
-/

namespace Folio

open Folio.Text

/-- Rules for a list of books, of a search or of an explore page. -/
structure ListRule where
  bookList : String := ""
  name : String := ""
  author : String := ""
  intro : String := ""
  kind : String := ""
  lastChapter : String := ""
  coverUrl : String := ""
  bookUrl : String := ""
deriving DecidableEq, Repr

/-- Rules for the page of a book. -/
structure BookInfoRule where
  /-- Narrows the page to the part that tells about the book. -/
  init : String := ""
  name : String := ""
  author : String := ""
  intro : String := ""
  kind : String := ""
  lastChapter : String := ""
  coverUrl : String := ""
  tocUrl : String := ""
deriving DecidableEq, Repr

/-- Rules for a table of contents. -/
structure TocRule where
  /-- Selects the chapters; a hyphen before it reverses them. -/
  chapterList : String := ""
  chapterName : String := ""
  chapterUrl : String := ""
  isVolume : String := ""
  nextTocUrl : String := ""
deriving DecidableEq, Repr

/-- Rules for the pages of a chapter. -/
structure ContentRule where
  content : String := ""
  nextContentUrl : String := ""
  /-- Replacements made before markup is left out. -/
  replaceRegex : List String := []
deriving DecidableEq, Repr

/-- A site and its rules. -/
structure Source where
  /-- What the source is known by, and what its links are resolved against. -/
  url : String := ""
  name : String := ""
  group : Option String := none
  enabled : Bool := true
  enabledExplore : Bool := true
  concurrentRate : Option String := none
  weight : Int := 0
  customOrder : Int := 0
  /-- Milliseconds since the epoch. -/
  lastUpdated : Option Int := none
  /-- A JSON object of headers. -/
  header : Option String := none
  loginUrl : Option String := none
  enabledCookieJar : Bool := false
  searchUrl : Option String := none
  exploreUrl : Option String := none
  search : ListRule := {}
  explore : ListRule := {}
  bookInfo : BookInfoRule := {}
  toc : TocRule := {}
  content : ContentRule := {}
deriving DecidableEq, Repr

/-- An entry of the explore menu of a source. -/
structure ExploreEntry where
  title : String
  url : String
deriving DecidableEq, Repr

namespace Source

/-- The name of a source, or its URL where it has none. -/
def displayName (s : Source) : String := if s.name.isEmpty then s.url else s.name

/-- The source takes part in searches. -/
def isSearchable (s : Source) : Bool :=
  s.enabled && s.searchUrl.any fun url => !isBlankText url

/-- The value of a header, as text. -/
def headerText : Json → String
  | .string s => s
  | value => value.text

/-- The headers of a source, ascending by name.  A header that is no JSON object
is reported. -/
def headers (s : Source) : Traced (List (String × String)) :=
  match s.header.filter fun h => !isBlankText h with
  | none => pure []
  | some raw =>
    match (Json.parse? raw).bind Json.members? with
    | some members => pure (members.map fun (name, value) => (name, headerText value))
    | none => do
      Traced.emit (.badSourceHeader s.url)
      pure []

/-- Read an entry of an explore menu: a title and a URL parted by `::`, or a URL
that is its own title. -/
def readEntry (entry : List Char) : ExploreEntry :=
  let (title, url) := (cut? [':', ':'] entry).getD (entry, entry)
  ⟨String.ofList (trim title), String.ofList (trim url)⟩

/-- The explore menu of a source.  Entries are parted by line ends or `&&`; those
without a URL are left out. -/
def exploreEntries (s : Source) : List ExploreEntry :=
  let lines := splitWhere (fun c => c == '\n' || c == '\r') (s.exploreUrl.getD "").toList
  let entries := (lines.flatMap (splitOn '&' ['&'])).map trim
  ((entries.filter (!·.isEmpty)).map readEntry).filter (!·.url.isEmpty)

/-- The rules of explore pages: those of searches where there are none. -/
def exploreRules (s : Source) : ListRule :=
  if isBlankText s.explore.bookList then s.search else s.explore

/-- A URL without the slashes it ends with. -/
def withoutSlashes (url : List Char) : List Char := dropEndWhile (· == '/') url

/-- The first source with a URL; slashes at the end do not count. -/
def find (sources : List Source) (url : String) : Except Failure Source :=
  let wanted := withoutSlashes (trim url.toList)
  match sources.find? fun s => withoutSlashes s.url.toList == wanted with
  | some s => .ok s
  | none => .error (.sourceNotFound url)

end Source

end Folio
