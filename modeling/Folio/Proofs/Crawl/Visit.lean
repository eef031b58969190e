import Folio.Crawl.Visit
import Folio.Proofs.Event

/-!
# Folio.Proofs.Crawl.Visit

The course that every crawl takes, whatever pages it is given.  A link is
opened only when it is neither one of the links opened before nor a URL that
one of these led to, and the first link that cannot be opened ends the crawl.

`Course` states this one step at a time; what holds of a whole crawl follows
by induction on it: no more links are opened than allowed (`Course.length_le`),
none is opened twice (`Course.nodup_links`), none is the final URL of an
earlier page (`Course.pairwise_finalUrl`), and only the last visit can have
failed (`Course.succeeded_of_mem_dropLast`).
-/

namespace Folio.Crawl.Visit

variable {α : Type}

/-! ## One visit -/

/-- The URL of the page that a visit found, after redirects. -/
def finalUrl? (v : Visit α) : Option String :=
  match v.outcome with
  | .ok (page, _) => some page.url
  | .error _ => none

/-- The visit found a page. -/
def succeeded (v : Visit α) : Bool := v.outcome.isOk

@[simp] theorem finalUrl?_ok (link : String) (page : PageText) (reading : α) :
    finalUrl? ⟨link, .ok (page, reading)⟩ = some page.url := rfl

@[simp] theorem succeeded_ok (link : String) (page : PageText) (reading : α) :
    succeeded ⟨link, .ok (page, reading)⟩ = true := rfl

/-- A visit gives something to read exactly when it found a page. -/
@[simp] theorem isSome_reading? (v : Visit α) : v.reading?.isSome = v.succeeded := by
  obtain ⟨link, outcome⟩ := v
  cases outcome with
  | error f => rfl
  | ok found => rfl

/-- There are as many readings as pages that were found. -/
theorem length_readings (visits : List (Visit α)) :
    (readings visits).length = (visits.filter succeeded).length := by
  induction visits with
  | nil => rfl
  | cons v rest ih =>
      have h := isSome_reading? v
      rw [readings] at ih ⊢
      cases hr : v.reading? with
      | none =>
          rw [hr, Option.isSome_none] at h
          rw [List.filterMap_cons_none hr, List.filter_cons_of_neg (by simp [← h]), ih]
      | some reading =>
          rw [hr, Option.isSome_some] at h
          rw [List.filterMap_cons_some hr, List.filter_cons_of_pos h.symm, List.length_cons,
            List.length_cons, ih]

/-! ## The course of a crawl -/

/-- The course of a crawl that opens links by `openLink`, at most `n` of them;
`visited` holds the links opened before and the URLs that they led to.  The
requests are those of the links that are opened. -/
inductive Course (openLink : String → Traced (Except Failure (PageText × α))) :
    Nat → List String → List (Visit α) → List Event → Prop
  /-- No link is left, or no more may be opened. -/
  | done {n : Nat} {visited : List String} : Course openLink n visited [] []
  | failed {n : Nat} {visited : List String} {link : String} {f : Failure}
      (fresh : link ∉ visited) (opened : (openLink link).value = .error f) :
      Course openLink (n + 1) visited [⟨link, .error f⟩] (openLink link).requests
  | found {n : Nat} {visited : List String} {link : String} {page : PageText} {reading : α}
      {rest : List (Visit α)} {requests : List Event} (fresh : link ∉ visited)
      (opened : (openLink link).value = .ok (page, reading))
      (onward : Course openLink n (page.url :: link :: visited) rest requests) :
      Course openLink (n + 1) visited (⟨link, .ok (page, reading)⟩ :: rest)
        ((openLink link).requests ++ requests)

namespace Course

variable {openLink : String → Traced (Except Failure (PageText × α))} {n : Nat}
  {visited : List String} {visits : List (Visit α)} {requests : List Event}

theorem length_le (h : Course openLink n visited visits requests) : visits.length ≤ n := by
  induction h with
  | done => exact Nat.zero_le _
  | failed fresh opened => exact Nat.succ_le_succ (Nat.zero_le _)
  | found fresh opened onward ih => exact Nat.succ_le_succ ih

/-- No link is opened that was visited before. -/
theorem link_not_mem (h : Course openLink n visited visits requests) :
    ∀ v ∈ visits, v.link ∉ visited := by
  induction h with
  | done => simp
  | failed fresh opened => simpa using fresh
  | found fresh opened onward ih =>
      intro v hv
      rcases List.mem_cons.mp hv with rfl | hv
      · exact fresh
      · intro hmem
        exact ih v hv (List.mem_cons_of_mem _ (List.mem_cons_of_mem _ hmem))

/-- What came of a visit is what opening its link gives. -/
theorem outcome_eq (h : Course openLink n visited visits requests) :
    ∀ v ∈ visits, v.outcome = (openLink v.link).value := by
  induction h with
  | done => simp
  | failed fresh opened => simpa using opened.symm
  | found fresh opened onward ih =>
      intro v hv
      rcases List.mem_cons.mp hv with rfl | hv
      · exact opened.symm
      · exact ih v hv

/-- The visits make all the requests. -/
theorem requests_eq (h : Course openLink n visited visits requests) :
    requests = visits.flatMap fun v => (openLink v.link).requests := by
  induction h with
  | done => rfl
  | failed fresh opened => rw [List.flatMap_singleton]
  | found fresh opened onward ih => rw [List.flatMap_cons, ← ih]

/-- No link is opened twice. -/
theorem nodup_links (h : Course openLink n visited visits requests) :
    (visits.map (·.link)).Nodup := by
  induction h with
  | done => simp
  | failed fresh opened => simp
  | found fresh opened onward ih =>
      rw [List.map_cons, List.nodup_cons]
      refine ⟨?_, ih⟩
      intro hmem
      obtain ⟨v, hv, hlink⟩ := List.mem_map.mp hmem
      exact onward.link_not_mem v hv (by rw [hlink]; simp)

/-- No link is the final URL of a page found before. -/
theorem pairwise_finalUrl (h : Course openLink n visited visits requests) :
    visits.Pairwise fun u v => u.finalUrl? ≠ some v.link := by
  induction h with
  | done => exact List.Pairwise.nil
  | failed fresh opened => exact List.pairwise_singleton _ _
  | found fresh opened onward ih =>
      refine List.pairwise_cons.mpr ⟨?_, ih⟩
      intro v hv heq
      rw [finalUrl?_ok, Option.some.injEq] at heq
      exact onward.link_not_mem v hv (by rw [heq]; simp)

/-- Only the last visit can have failed. -/
theorem succeeded_of_mem_dropLast (h : Course openLink n visited visits requests) :
    ∀ v ∈ visits.dropLast, v.succeeded = true := by
  induction h with
  | done => simp
  | failed fresh opened => simp
  | @found n visited link page reading rest requests fresh opened onward ih =>
      intro v hv
      cases rest with
      | nil => simp at hv
      | cons w ws =>
          rw [List.dropLast_cons_cons] at hv
          rcases List.mem_cons.mp hv with rfl | hv
          · exact succeeded_ok link page reading
          · exact ih v hv

end Course

end Folio.Crawl.Visit
