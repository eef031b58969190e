import Folio.Crawl.Basic

/-!
# Folio.Crawl.Visit

The visits of a crawl, one for each link that it followed.  A crawl ends with
the first visit that fails, so only the last one can have failed.
-/

namespace Folio.Crawl

/-- A link that was followed, and what came of it: the page, and what was read
on it. -/
structure Visit (α : Type) where
  link : String
  outcome : Except Failure (PageText × α)

namespace Visit

variable {α : Type}

/-- What was read. -/
def reading? (v : Visit α) : Option α :=
  match v.outcome with
  | .ok (_, reading) => some reading
  | .error _ => none

/-- What was read on all visits, in their order. -/
def readings (visits : List (Visit α)) : List α := visits.filterMap reading?

/-- The link and the failure of the last visit, if it failed. -/
def lastFailure? (visits : List (Visit α)) : Option (String × Failure) :=
  visits.getLast?.bind fun v =>
    match v.outcome with
    | .error f => some (v.link, f)
    | .ok _ => none

end Visit

end Folio.Crawl
