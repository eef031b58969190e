import Folio.Url.Parser

/-!
# Folio.Url.Link

Links as pages and rules give them: a URL, absolute or relative, that may carry
an options block for the request.  The block begins at the first brace that
follows a comma, blanks between them allowed.
-/

namespace Folio

open Folio.Text

/-- The URL of a link and its options block, the comma between them removed. -/
def splitOptions : List Char → List Char × Option (List Char)
  | [] => ([], none)
  | c :: rest =>
    let block := trimStart rest
    if c = ',' ∧ startsWith ['\x7b'] block then ([], some block)
    else
      let (url, options) := splitOptions rest
      (c :: url, options)

/-- The URL part of a link resolved against a base; a link that cannot be
resolved is only trimmed. -/
def resolveTarget (base : String) (target : List Char) : List Char :=
  match Url.parse base with
  | .error _ => target
  | .ok base =>
    match Url.read (some base) target with
    | .ok url => url.chars
    | .error _ => target

/-- A link resolved against a base.  Its options block stays as it is. -/
def absoluteUrl (base link : String) : String :=
  let link := trim link.toList
  if link.isEmpty then ""
  else
    let (target, options) := splitOptions link
    let resolved := resolveTarget base (trim target)
    match options with
    | some block => String.ofList (resolved ++ ',' :: block)
    | none => String.ofList resolved

end Folio
