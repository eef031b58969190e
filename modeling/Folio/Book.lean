import Folio.Digest.Sha256
import Folio.Json.Value
import Folio.Text.Ascii
import Folio.Text.Utf8

/-!
# Folio.Book

Books, their chapters, and what searches and crawls give.
-/

namespace Folio

open Folio.Text

/-- A book found through a source. -/
structure Book where
  id : String := ""
  name : String := ""
  author : Option String := none
  coverUrl : Option String := none
  /-- The URL of the page of the book. -/
  bookUrl : String := ""
  /-- The URL of the source. -/
  origin : String := ""
  originName : String := ""
  intro : Option String := none
  kind : Option String := none
  latestChapter : Option String := none
  tocUrl : Option String := none
deriving DecidableEq, Repr

namespace Book

/-- What a book is known by: the digest of the URL of its source followed by its
own. -/
def generateId (origin bookUrl : String) : String :=
  toHex (Digest.Sha256.digest (Utf8.bytes origin ++ Utf8.bytes bookUrl))

/-- A book of which no more is known than where it is and what it is called. -/
def of (origin bookUrl name : String) : Book :=
  { id := generateId origin bookUrl, name, bookUrl, origin }

/-- The author as it is shown. -/
def displayAuthor (b : Book) : String := b.author.getD "(Unknown)"

/-- The URL of the table of contents: the page of the book, unless another is
known. -/
def contentsUrl (b : Book) : String := (b.tocUrl.filter (· != "")).getD b.bookUrl

/-- Write a book. -/
def toJson (b : Book) : Json :=
  .ofMembers [("id", .string b.id), ("name", .string b.name), ("author", .ofOption b.author),
    ("cover_url", .ofOption b.coverUrl), ("book_url", .string b.bookUrl),
    ("origin", .string b.origin), ("origin_name", .string b.originName),
    ("intro", .ofOption b.intro), ("kind", .ofOption b.kind),
    ("latest_chapter", .ofOption b.latestChapter), ("toc_url", .ofOption b.tocUrl)]

end Book

/-- A chapter of a book.  One that heads a volume may have no URL. -/
structure Chapter where
  title : String
  url : String
  index : Nat
  isVolume : Bool
deriving DecidableEq, Repr

/-- The text of a chapter, joined from its pages. -/
structure Content where
  chapterUrl : String
  text : String
  pages : Nat
deriving DecidableEq, Repr

/-- What one source contributes to a search. -/
structure SearchBatch where
  sourceUrl : String
  sourceName : String
  books : List Book
deriving DecidableEq, Repr

end Folio
