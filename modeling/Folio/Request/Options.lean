import Folio.Json.Reader
import Folio.Text.Blank

/-!
# Folio.Request.Options

The options block of a link or a template: a JSON object that names the method,
the charset, the headers and the body of a request.  Members it does not know
may have any form that is JSON as written; those it knows may not be repeated.
-/

namespace Folio.Request

open Folio.Text

/-- What a link says about its request. -/
structure Options where
  method : Option String := none
  charset : Option String := none
  /-- Headers, ascending by name. -/
  headers : List (String × Json) := []
  body : Option Json := none
deriving Repr

namespace Options

/-- A member that is a text or null. -/
def text? : Json.Form → Option (Option String)
  | .null => some none
  | .string (some text) => some (some text)
  | _ => none

/-- A member that is a value or null; one array or object is open around it. -/
def value? (form : Json.Form) : Option (Option Json) :=
  (form.value? (Json.depthLimit - 1)).map fun
    | .null => none
    | value => some value

/-- A member that is an object. -/
def members? (form : Json.Form) : Option (List (String × Json)) :=
  (form.value? (Json.depthLimit - 1)).bind Json.members?

/-- The options with one more member. -/
def withMember? (options : Options) (key : String) (form : Json.Form) : Option Options :=
  match key with
  | "method" => do return { options with method := ← text? form }
  | "charset" => do return { options with charset := ← text? form }
  | "headers" => do return { options with headers := ← members? form }
  | "body" => do return { options with body := ← value? form }
  | _ => some options

/-- A member that is known. -/
def isKnown (key : String) : Bool :=
  key == "method" || key == "charset" || key == "headers" || key == "body"

/-- Read members; `seen` are those that are known and have been read. -/
def ofMembers? (seen : List String) (options : Options) :
    List (Option String × Json.Form) → Option Options
  | [] => some options
  | (none, _) :: _ => none
  | (some key, form) :: rest =>
    if isKnown key && seen.contains key then none
    else do
      let options ← options.withMember? key form
      ofMembers? (if isKnown key then key :: seen else seen) options rest

/-- Read an options block. -/
def read? (block : List Char) : Option Options :=
  match Json.Form.read? (String.ofList block) with
  | some (.object members) => ofMembers? [] {} members
  | _ => none

/-- The charset that is named, without blanks around it, unless it is blank. -/
def declaredCharset (options : Options) : Option String :=
  (options.charset.map trimmed).filter (· != "")

end Options

end Folio.Request
