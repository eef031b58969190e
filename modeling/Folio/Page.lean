import Folio.Charset.Decoder
import Folio.Event

/-!
# Folio.Page

Fetched pages and their text.  A page declares its encoding in the request, in
its content type, or near the beginning of its markup; where the declaration is
wrong, other encodings are tried in turn, and the first that decodes every byte
wins.
-/

namespace Folio

open Folio.Text

/-- A fetched page. -/
structure Page where
  /-- The URL after redirects. -/
  url : String
  contentType : Option String
  body : List UInt8
deriving DecidableEq, Repr

namespace Page

/-! ## Declarations -/

/-- A quotation mark around a value. -/
def isQuote (c : Char) : Bool := c == '"' || c == '\''

/-- The value of a parameter `charset`, unless it is empty. -/
def charsetParameter? (param : List Char) : Option String := do
  let (name, value) ← cut? ['='] param
  if (trim name).map lowerAscii != "charset".toList then none
  else
    let value := dropEndWhile isQuote ((trim value).dropWhile isQuote)
    if value.isEmpty then none else some (String.ofList value)

/-- The charset that a content type declares. -/
def contentTypeCharset? (contentType : String) : Option String :=
  ((splitWhere (· == ';') contentType.toList).drop 1).findSome? charsetParameter?

/-- How many bytes of markup are searched for a declaration. -/
def searchedBytes : Nat := 2048

/-- A character of a label in markup. -/
def isLabelChar (c : Char) : Bool := isAsciiAlnum c || c == '-' || c == '_'

/-- The charset that markup declares. -/
def markupCharset? (body : List UInt8) : Option String := do
  let head := (Utf8.decodeLossy (body.take searchedBytes)).map lowerAscii
  let (_, rest) ← cut? "charset=".toList head
  let value := (rest.dropWhile isQuote).takeWhile isLabelChar
  if value.isEmpty then none else some (String.ofList value)

/-- The charset that is declared: by the request, or else by the content type,
or else by the markup. -/
def declaredCharset (explicit contentType : Option String) (body : List UInt8) : Option String :=
  explicit <|> contentType.bind contentTypeCharset? <|> markupCharset? body

/-! ## Decoding -/

/-- The encodings that are tried after the declared one. -/
def fallbacks : List Charset := [.gbk, .utf8, .western]

/-- The text by the first encoding that decodes every byte. -/
def firstDecoded? (bytes : List UInt8) : List Charset → Option (List Char × Charset)
  | [] => none
  | c :: rest =>
    match c.decode? bytes with
    | some text => some (text, c)
    | none => firstDecoded? bytes rest

/-- The text by the encoding whose mark the bytes begin with. -/
def markedText? (bytes : List UInt8) : Option (List Char × Charset) := do
  let (charset, rest) ← Charset.forMark? bytes
  let text ← charset.decode? rest
  return (text, charset)

/-- The encoding of a label, if it is known; an unknown label is reported. -/
def reportUnknown (label : String) : Option Charset → Traced (Option Charset)
  | some charset => pure (some charset)
  | none => do
    Traced.emit (.unknownCharset label)
    pure none

/-- The encoding that a declaration names, UTF-8 where there is none. -/
def declaredEncoding (declared : Option String) : Traced (Option Charset) :=
  match declared with
  | none => pure (some .utf8)
  | some label => reportUnknown label (Charset.forLabel? (trim label.toList))

/-- The text of bytes and the encoding that decoded them; an encoding other
than the declared one is reported. -/
def decode (bytes : List UInt8) (declared : Option String) :
    Traced (Except Failure (List Char × Charset)) :=
  match markedText? bytes with
  | some result => pure (.ok result)
  | none => do
    let encoding ← declaredEncoding declared
    match firstDecoded? bytes (encoding.toList ++ fallbacks) with
    | none =>
      pure (.error (.decode ("no charset could decode " ++ toString bytes.length ++ " bytes")))
    | some (text, charset) => do
      if encoding != some charset then Traced.emit (.fallbackCharset charset.name)
      pure (.ok (text, charset))

/-- The text of a page; `charset` is what the request declares. -/
def text (page : Page) (charset : Option String) : Traced (Except Failure String) := do
  let declared := declaredCharset charset page.contentType page.body
  let result ← decode page.body declared
  pure (result.map fun (text, _) => String.ofList text)

end Page

end Folio
