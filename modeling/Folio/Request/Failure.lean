import Folio.Url.Host

/-!
# Folio.Request.Failure

Why no request can be made from a template or a link.
-/

namespace Folio.Request

/-- Why no request can be made. -/
inductive Failure where
  | emptyTemplate
  /-- The target, without blanks around it, is no URL. -/
  | invalidUrl (target : String) (reason : Url.Failure)
  /-- The options are no JSON object of the right form. -/
  | options
  /-- The name of the method, without blanks around it. -/
  | method (name : String)
  | charset (label : String)
deriving DecidableEq, Repr

/-- The wording of a failure. -/
def Failure.message : Failure → String
  | emptyTemplate => "empty URL template"
  | invalidUrl target reason => "invalid URL `" ++ target ++ "`: " ++ reason.message
  | options => "invalid request options"
  | method name => "unsupported method `" ++ name ++ "`"
  | charset label => "unknown charset `" ++ label ++ "`"

end Folio.Request
