import Folio.Crawl.ChapterText
import Folio.Proofs.Crawl.Basic
import Folio.Proofs.Crawl.Visit

/-!
# Folio.Proofs.Crawl.ChapterText

The crawl of a chapter.  Its visits take a `Visit.Course`, they are as many as
the settings allow at most, and none after the first leads to the next
chapter; the text of the chapter is typeset from what was read on them.
-/

namespace Folio.Crawler

open Folio.Text Folio.Crawl

/-! ## One step -/

/-- The link on a page that the crawl follows: none that leads to the next
chapter or was visited before. -/
def onward? (rule : ChapterRule) (visited : List String) : Option String → Option String
  | none => none
  | some next =>
    if rule.following = some next || visited.contains next then none else some next

theorem onward?_eq_some {rule : ChapterRule} {visited : List String} {next : Option String}
    {link : String} (h : onward? rule visited next = some link) :
    next = some link ∧ rule.following ≠ some link ∧ link ∉ visited := by
  cases next with
  | none => cases h
  | some next =>
      rw [onward?] at h
      split at h
      · cases h
      · next hcond =>
        cases h
        simpa using hcond

/-- Read the body of a page, and its link to the next one. -/
def readBody (c : Crawler) (rule : ChapterRule) (page : PageText) : Traced String := do
  let (body, _) ← c.readPage rule page
  return body

/-- Open a page of a chapter. -/
def openChapterPage (c : Crawler) (source : Source) (rule : ChapterRule) (link : String) :
    Traced (Except Failure (PageText × String)) :=
  c.openPage source (c.readBody rule) link

variable {c : Crawler} {source : Source} {rule : ChapterRule} {link : String}
  {visited : List String}

theorem value_visitChapter_error {f : Failure} (n : Nat)
    (h : (c.loadLink source link).value = .error f) :
    (c.visitChapter source rule (n + 1) link visited).value = [⟨link, .error f⟩] := by
  rw [visitChapter, Traced.value_bind, h]
  rfl

theorem requests_visitChapter_error {f : Failure} (n : Nat)
    (h : (c.loadLink source link).value = .error f) :
    (c.visitChapter source rule (n + 1) link visited).requests =
      (c.loadLink source link).requests := by
  simp only [visitChapter, Traced.requests_bind, h, Traced.requests_pure, List.append_nil]

/-- The visits from the link that a page leads to. -/
def furtherVisits (c : Crawler) (source : Source) (rule : ChapterRule) (n : Nat)
    (visited : List String) (next : Option String) : Traced (List (Visit String)) :=
  match onward? rule visited next with
  | none => pure []
  | some next => c.visitChapter source rule n next visited

theorem value_visitChapter_ok {page : PageText} (n : Nat)
    (h : (c.loadLink source link).value = .ok page) :
    (c.visitChapter source rule (n + 1) link visited).value =
      ⟨link, .ok (page, (c.readPage rule page).value.1)⟩ ::
        (c.furtherVisits source rule n (page.url :: link :: visited)
          (c.readPage rule page).value.2).value := by
  rw [visitChapter, Traced.value_bind, h]
  simp only [Traced.value_bind, furtherVisits]
  cases (c.readPage rule page).value.2 with
  | none => rfl
  | some next =>
      by_cases hend : rule.following = some next || (page.url :: link :: visited).contains next
      · simp only [onward?, if_pos hend]
        rfl
      · simp only [onward?, if_neg hend]
        rfl

theorem requests_visitChapter_ok {page : PageText} (n : Nat)
    (h : (c.loadLink source link).value = .ok page) :
    (c.visitChapter source rule (n + 1) link visited).requests =
      (c.openChapterPage source rule link).requests ++
        (c.furtherVisits source rule n (page.url :: link :: visited)
          (c.readPage rule page).value.2).requests := by
  rw [openChapterPage, requests_openPage_ok h, visitChapter, Traced.requests_bind, h]
  simp only [readBody, Traced.requests_bind, Traced.requests_pure, List.append_nil,
    List.append_assoc, List.append_cancel_left_eq, furtherVisits]
  cases (c.readPage rule page).value.2 with
  | none => rfl
  | some next =>
      by_cases hend : rule.following = some next || (page.url :: link :: visited).contains next
      · simp only [onward?, if_pos hend]
        rfl
      · simp only [onward?, if_neg hend, Traced.requests_bind, requests_wait,
          Traced.requests_pure, List.nil_append, List.append_nil]

/-! ## A whole crawl -/

/-- The visits take a course, since a link is followed only when it is fresh. -/
theorem course_visitChapter (n : Nat) (hfresh : link ∉ visited) :
    Visit.Course (c.openChapterPage source rule) n visited
      (c.visitChapter source rule n link visited).value
      (c.visitChapter source rule n link visited).requests := by
  induction n generalizing link visited with
  | zero => exact .done
  | succ n ih =>
      cases hl : (c.loadLink source link).value with
      | error f =>
          rw [value_visitChapter_error n hl, requests_visitChapter_error n hl]
          have hopened : (c.openChapterPage source rule link).value = .error f :=
            value_openPage_error hl
          have hcourse := Visit.Course.failed (n := n) hfresh hopened
          rwa [openChapterPage, requests_openPage_error hl] at hcourse
      | ok page =>
          rw [value_visitChapter_ok n hl, requests_visitChapter_ok n hl]
          refine .found hfresh (value_openPage_ok hl) ?_
          rw [furtherVisits]
          split
          · exact .done
          · next next honward => exact ih (onward?_eq_some honward).2.2

/-- The crawl begins with the link that it is given. -/
theorem head?_visitChapter (n : Nat) :
    (c.visitChapter source rule (n + 1) link visited).value.head?.map (·.link) = some link := by
  cases hl : (c.loadLink source link).value with
  | error f => rw [value_visitChapter_error n hl]; rfl
  | ok page => rw [value_visitChapter_ok n hl]; rfl

/-- The next link on a page is not empty. -/
theorem readPage_next_ne_empty {page : PageText} {next : String}
    (h : (c.readPage rule page).value.2 = some next) : next ≠ "" := by
  intro hempty
  rw [hempty] at h
  simp only [readPage, Traced.value_bind, Traced.value_pure, nonempty?] at h
  split at h
  · cases h
  · next hne =>
    rw [Option.some.injEq] at h
    rw [h] at hne
    exact hne rfl

/-- A link found on a page of the chapter is not empty and not the next
chapter. -/
theorem link_of_mem_furtherVisits {page : PageText} {n : Nat} {v : Visit String}
    (hv : v ∈ (c.furtherVisits source rule n visited (c.readPage rule page).value.2).value) :
    v.link ≠ "" ∧ rule.following ≠ some v.link := by
  induction n generalizing visited page with
  | zero =>
      rw [furtherVisits] at hv
      split at hv
      · cases hv
      · cases hv
  | succ n ih =>
      rw [furtherVisits] at hv
      split at hv
      · cases hv
      · next link honward =>
        have hlink := onward?_eq_some honward
        have hgood : link ≠ "" ∧ rule.following ≠ some link :=
          ⟨readPage_next_ne_empty hlink.1, hlink.2.1⟩
        cases hl : (c.loadLink source link).value with
        | error f =>
            rw [value_visitChapter_error n hl, List.mem_singleton] at hv
            rw [hv]
            exact hgood
        | ok found =>
            rw [value_visitChapter_ok n hl] at hv
            rcases List.mem_cons.mp hv with rfl | hv
            · exact hgood
            · exact ih hv

/-- No link after the first is empty or the next chapter. -/
theorem link_of_mem_tail_visitChapter {n : Nat} {v : Visit String}
    (hv : v ∈ (c.visitChapter source rule n link visited).value.tail) :
    v.link ≠ "" ∧ rule.following ≠ some v.link := by
  cases n with
  | zero => cases hv
  | succ n =>
      cases hl : (c.loadLink source link).value with
      | error f =>
          rw [value_visitChapter_error n hl] at hv
          cases hv
      | ok page =>
          rw [value_visitChapter_ok n hl, List.tail_cons] at hv
          exact link_of_mem_furtherVisits hv

/-! ## The text of a chapter -/

@[simp] theorem requests_replace (body rule : String) :
    (Typeset.replace body rule).requests = [] := by
  simp only [Typeset.replace]
  split
  · rfl
  · split
    · rfl
    · rw [Traced.requests_bind, Traced.requests_emit rfl]
      rfl

@[simp] theorem requests_replaceEach (body : String) (rules : List String) :
    (Typeset.replaceEach body rules).requests = [] := by
  induction rules generalizing body with
  | nil => rfl
  | cons rule rest ih =>
      simp [Typeset.replaceEach, ih]

/-- Typesetting asks for nothing. -/
@[simp] theorem requests_typeset (body : String) (rules : List String) :
    (Typeset.typeset body rules).requests = [] := by
  rw [Typeset.typeset, Traced.requests_bind, requests_replaceEach]
  rfl

/-- The visits of the crawl that `content` makes. -/
def chapterVisits (c : Crawler) (source : Source) (chapterUrl : String)
    (nextChapter : Option String) : List (Visit String) :=
  (c.visitChapter source (chapterRule source nextChapter) c.settings.maxPages
    (absoluteUrl source.url chapterUrl) []).value

theorem value_content (c : Crawler) (source : Source) (chapterUrl : String)
    (nextChapter : Option String) :
    (c.content source chapterUrl nextChapter).value =
      let bodies := Visit.readings (c.chapterVisits source chapterUrl nextChapter)
      ⟨chapterUrl, (Typeset.typeset ("\n".intercalate (bodies.filter (· != "")))
        source.content.replaceRegex).value, bodies.length⟩ := by
  simp only [content, Traced.value_bind]
  split
  · rfl
  · rfl

theorem requests_content (c : Crawler) (source : Source) (chapterUrl : String)
    (nextChapter : Option String) :
    (c.content source chapterUrl nextChapter).requests =
      (c.visitChapter source (chapterRule source nextChapter) c.settings.maxPages
        (absoluteUrl source.url chapterUrl) []).requests := by
  simp only [content, Traced.requests_bind]
  split
  · simp only [Traced.requests_bind, requests_typeset, Traced.requests_pure, List.append_nil]
    rw [Traced.requests_emit rfl, List.append_nil]
  · simp only [Traced.requests_bind, requests_typeset, Traced.requests_pure, List.append_nil]

/-- A link that is not empty is the next chapter exactly when the rule for the
chapter says so. -/
theorem following_chapterRule {source : Source} {nextChapter : Option String} {link : String}
    (hne : link ≠ "") (h : (chapterRule source nextChapter).following ≠ some link) :
    nextChapter.map (absoluteUrl source.url) ≠ some link := by
  intro hnext
  apply h
  rw [chapterRule, hnext, Option.bind_some, nonempty?, if_neg]
  rwa [String.isEmpty_iff]

/-- **The crawl of a chapter.**  Its visits begin with the URL of the chapter
and are as many as the settings allow at most; what came of each is what
opening its link gives.  No link is opened twice, none is the final URL of an
earlier page, none after the first is the next chapter, and only the last can
have failed.  The chapter has as many pages as were found, its text is typeset
from the bodies that are not empty, in the order of the visits, and the visits
make all the requests. -/
theorem content_visits (c : Crawler) (source : Source) (chapterUrl : String)
    (nextChapter : Option String) :
    let visits := c.chapterVisits source chapterUrl nextChapter
    let rule := chapterRule source nextChapter
    let content := c.content source chapterUrl nextChapter
    visits.length ≤ c.settings.maxPages ∧
    (0 < c.settings.maxPages →
      visits.head?.map (·.link) = some (absoluteUrl source.url chapterUrl)) ∧
    (∀ v ∈ visits, v.outcome = (c.openChapterPage source rule v.link).value) ∧
    (visits.map (·.link)).Nodup ∧
    (visits.Pairwise fun u v => u.finalUrl? ≠ some v.link) ∧
    (∀ v ∈ visits.tail, nextChapter.map (absoluteUrl source.url) ≠ some v.link) ∧
    (∀ v ∈ visits.dropLast, v.succeeded = true) ∧
    content.value.pages = (visits.filter (·.succeeded)).length ∧
    content.value.text = (Typeset.typeset
      ("\n".intercalate ((Visit.readings visits).filter (· != "")))
      source.content.replaceRegex).value ∧
    content.requests = visits.flatMap fun v =>
      (c.openChapterPage source rule v.link).requests := by
  intro visits rule content
  have hcourse : Visit.Course (c.openChapterPage source rule) c.settings.maxPages [] visits _ :=
    course_visitChapter _ List.not_mem_nil
  have hvalue := c.value_content source chapterUrl nextChapter
  refine ⟨hcourse.length_le, ?_, hcourse.outcome_eq, hcourse.nodup_links,
    hcourse.pairwise_finalUrl, ?_, hcourse.succeeded_of_mem_dropLast, ?_, ?_, ?_⟩
  · intro hpos
    obtain ⟨n, hn⟩ := Nat.exists_eq_succ_of_ne_zero (Nat.ne_of_gt hpos)
    simp only [visits, chapterVisits, hn]
    exact head?_visitChapter n
  · intro v hv
    have hlink := link_of_mem_tail_visitChapter hv
    exact following_chapterRule hlink.1 hlink.2
  · rw [← Visit.length_readings]
    exact congrArg Content.pages hvalue
  · exact congrArg Content.text hvalue
  · exact (c.requests_content source chapterUrl nextChapter).trans hcourse.requests_eq

end Folio.Crawler
