import Folio.Script.Evaluator

/-!
# Folio.Request.Template

Templates of requests.  Scripts in a template are run first, then the URL of
the source and the number of the page take the places of their variables, and
a list in angle brackets gives way to the entry of the page.  The keyword comes
last, when it is known how it is encoded.
-/

namespace Folio.Request

open Folio.Text

/-- What a template is filled in with. -/
structure Query where
  keyword : Option String := none
  /-- The number of the page, counted from one. -/
  page : Nat := 1
deriving DecidableEq, Repr

/-! ## Scripts -/

/-- How many scripts of a template are run. -/
def scriptLimit : Nat := 8

/-- What a script in a template is given: the text before it, the keyword and
the number of the page. -/
def scriptBindings (baseUrl : String) (query : Query) (before : List Char) : Script.Bindings :=
  let bindings := Script.Bindings.of (.text (String.ofList before)) baseUrl
  (bindings.withVar "key" (query.keyword.getD "")).withVar "page" (toString query.page)

/-- A text with the output of its first script.  A script in braces is replaced
alone, any other together with the text before it. -/
def spliced (envelope : Script.Envelope) (output : List Char) : List Char :=
  match envelope.kind with
  | .braces => envelope.before ++ output ++ envelope.after
  | .tag | .inline => output ++ envelope.after

/-- Run the scripts of a template, at most `count` of them. -/
def runScripts (e : Script.Evaluator) (baseUrl : String) (query : Query) (count : Nat)
    (template : List Char) : Traced (List Char) :=
  match count with
  | 0 => pure template
  | count + 1 =>
    match Script.Envelope.find? false template with
    | none => pure template
    | some envelope => do
      let bindings := scriptBindings baseUrl query envelope.before
      let output ← e.run (String.ofList envelope.script) bindings
      runScripts e baseUrl query count (spliced envelope output.intoText.toList)

/-! ## Variables -/

/-- Stands for the URL of the source. -/
def baseUrlVariable : List Char := "\x7b\x7bbaseUrl\x7d\x7d".toList

/-- Stands for the number of the page. -/
def pageVariable : List Char := "\x7b\x7bpage\x7d\x7d".toList

/-- Stands for the keyword. -/
def keyVariable : List Char := "\x7b\x7bkey\x7d\x7d".toList

/-- The other spelling of the variable for the keyword. -/
def shortKeyVariable : List Char := "\x7bkey\x7d".toList

/-- A character that may stand between angle brackets. -/
def isListed (c : Char) : Bool := c != '<' && c != '>'

/-- The entry of a page in a list; the last entry serves all further pages. -/
def entryOf (page : Nat) (list : List Char) : List Char :=
  let entries := splitWhere (· == ',') list
  trim (entries.getD (min (page - 1) (entries.length - 1)) [])

/-- The list of two entries or more that an angle bracket before a text opens. -/
def list? (s : List Char) : Option (List Char) :=
  let list := s.takeWhile isListed
  if list.contains ',' && startsWith ['>'] (s.drop list.length) then some list else none

/-- Exchange every list in angle brackets for the entry of a page. -/
def choosePage (page : Nat) : List Char → List Char
  | [] => []
  | c :: rest =>
    match if c = '<' then list? rest else none with
    | some list => entryOf page list ++ choosePage page (rest.drop (list.length + 1))
    | none => c :: choosePage page rest
termination_by s => s.length
decreasing_by
  · simp only [List.length_drop, List.length_cons]; omega
  · simp

/-- Fill in everything but the keyword. -/
def fillIn (baseUrl : String) (page : Nat) (template : List Char) : List Char :=
  let text := replaceAll baseUrlVariable baseUrl.toList template
  choosePage page (replaceAll pageVariable (toString page).toList text)

/-- Fill in the keyword. -/
def fillInKeyword (encoded text : List Char) : List Char :=
  replaceAll shortKeyVariable encoded (replaceAll keyVariable encoded text)

end Folio.Request
