import Folio.Request.Failure

/-!
# Folio.Failure

Why an operation fails: its request could not be made, a file or a page could
not be read, or what was asked for does not exist.
-/

namespace Folio

/-- Why an operation fails. -/
inductive Failure where
  | request (failure : Request.Failure)
  /-- A text is not JSON of the right form. -/
  | json
  /-- A file could not be read or written. -/
  | io
  /-- The configuration is malformed. -/
  | config
  /-- The bytes of a page could not be decoded. -/
  | decode (reason : String)
  | sourceNotFound (url : String)
  /-- A page could not be fetched. -/
  | other (reason : String)
deriving DecidableEq, Repr

/-- The wording of a failure as it is reported. -/
def Failure.report : Failure → String
  | request failure => "Request error: " ++ failure.message
  | json => "JSON error"
  | io => "IO error"
  | config => "Configuration error"
  | decode reason => "Decode error: " ++ reason
  | sourceNotFound url => "Source not found: " ++ url
  | other reason => reason

end Folio
