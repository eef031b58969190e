import Folio.Charset.Encoder
import Folio.Event
import Folio.Url.Percent

/-!
# Folio.Request.Keyword

Keywords as they stand in requests: their bytes in the charset of the source,
percent-encoded.
-/

namespace Folio.Request

open Folio.Text

/-- A character that is kept in a keyword in UTF-8. -/
def keptInComponent (c : Char) : Bool :=
  isAsciiAlnum c || c == '-' || c == '_' || c == '.' || c == '!' || c == '~' || c == '*' ||
    c == '\'' || c == '(' || c == ')'

/-- A character that is kept in a keyword in any other charset. -/
def keptInForm (c : Char) : Bool :=
  isAsciiAlnum c || c == '-' || c == '_' || c == '.' || c == '*'

/-- The keyword in the encoding that a label declares, if it declares one.
Characters that the encoding lacks are reported. -/
def encodeIn (keyword label : String) : Option Charset → Traced (Except Failure String)
  | none => pure (.error (.charset label))
  | some .utf8 => pure (.ok (String.ofList (Url.encodeText keptInComponent keyword.toList)))
  | some charset => do
    let (bytes, missing) := charset.encode keyword.toList
    if missing then Traced.emit (.unencodableKeyword label)
    pure (.ok (String.ofList (Url.encodeBytes keptInForm bytes)))

/-- The keyword in a charset, UTF-8 where none is named. -/
def encodeKeyword (keyword : String) (label : Option String) : Traced (Except Failure String) :=
  let label := label.getD "utf-8"
  encodeIn keyword label (Charset.forLabel? label.toList)

end Folio.Request
