import Folio.Text.Ascii

/-!
# Folio.Request.Header

Header fields of a request.  Names are compared without regard to the case of
ASCII letters; setting a header takes the place of every header of that name.
-/

namespace Folio.Request

open Folio.Text

/-- Header fields, in the order in which they are sent. -/
abbrev Headers := List (String × String)

namespace Headers

/-- There is a header of a name. -/
def has (headers : Headers) (name : String) : Bool :=
  headers.any fun (other, _) => eqIgnoreCase other name

/-- The value of the header of a name. -/
def value? (headers : Headers) (name : String) : Option String :=
  (headers.find? fun (other, _) => eqIgnoreCase other name).map Prod.snd

/-- The headers with one set, which comes last. -/
def put (headers : Headers) (name value : String) : Headers :=
  (headers.filter fun (other, _) => !eqIgnoreCase other name) ++ [(name, value)]

/-- The headers with one set unless there is one of its name. -/
def supply (headers : Headers) (name value : String) : Headers :=
  if has headers name then headers else headers ++ [(name, value)]

end Headers

end Folio.Request
