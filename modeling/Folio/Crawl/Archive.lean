import Folio.Crawl.Basic
import Folio.Text.Ascii

/-!
# Folio.Crawl.Archive

An archive of pages, which answers requests in place of the network.  A request
is answered by its URL alone, and one whose URL is not in the archive fails at
once.
-/

namespace Folio.Crawl.Archive

open Folio.Text

/-- A URL and what a request for it gives. -/
structure Entry where
  url : String
  reply : Reply

/-- The answers of an archive. -/
def fetcher (entries : List Entry) : Fetcher := fun request =>
  let url := request.url.text
  match entries.find? (·.url == url) with
  | some entry => entry.reply
  | none => ⟨0, .error ("no page at " ++ url)⟩

/-- A member that is a text. -/
def text? (v : Json) (key : String) : Option String := (v.get? key).bind Json.string?

/-- The bytes of a body, given as hexadecimal digits or as a text. -/
def bodyOf (v : Json) : List UInt8 :=
  match text? v "hex" with
  | some digits => (ofHex? digits.toList).getD []
  | none => Utf8.bytes ((text? v "body").getD "")

/-- The time that a reply takes, in milliseconds. -/
def delayOf (v : Json) : Nat := (((v.get? "delay_ms").bind Json.int?).map Int.toNat).getD 0

/-- Read an entry. -/
def entryOf (v : Json) : Entry :=
  let url := (text? v "url").getD ""
  match text? v "error" with
  | some reason => ⟨url, delayOf v, .error reason⟩
  | none =>
    let page : Page := ⟨(text? v "final_url").getD url, text? v "content_type", bodyOf v⟩
    ⟨url, delayOf v, .ok page⟩

/-- Read an archive: an array of entries. -/
def read? (text : String) : Option (List Entry) :=
  ((Json.parse? text).bind Json.items?).map (·.map entryOf)

end Folio.Crawl.Archive
