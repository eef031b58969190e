import Folio.Crawl.ChapterList
import Folio.Proofs.Crawl.Basic
import Folio.Proofs.Crawl.Visit

/-!
# Folio.Proofs.Crawl.ChapterList

The crawl of a table of contents.  However many links its pages push on the
queue, its visits take a `Visit.Course` and are as many as the settings allow
at most.  The table fails exactly when its first page cannot be loaded, and its
chapters are numbered in order, each with a title and with a URL unless it
heads a volume.
-/

namespace Folio

/-- A chapter that can be listed has a title, and a URL unless it heads a
volume. -/
def Chapter.IsListed (chapter : Chapter) : Prop :=
  chapter.title ≠ "" ∧ (chapter.url ≠ "" ∨ chapter.isVolume = true)

namespace Crawler

open Folio.Text Folio.Crawl

/-! ## One step -/

/-- Read a page of a table: its chapters, and its links to other pages. -/
def readTablePage (c : Crawler) (source : Source) (rule : String) (page : PageText) :
    Traced (List Chapter × List String) := do
  let chapters ← c.listedChapters source rule page
  let links ← c.furtherLinks source page
  return (chapters, links)

/-- Read the chapters of a page of a table, and its links to other pages. -/
def readChapters (c : Crawler) (source : Source) (rule : String) (page : PageText) :
    Traced (List Chapter) := do
  let (chapters, _) ← c.readTablePage source rule page
  return chapters

/-- Open a page of a table. -/
def openTablePage (c : Crawler) (source : Source) (rule : String) (link : String) :
    Traced (Except Failure (PageText × List Chapter)) :=
  c.openPage source (c.readChapters source rule) link

/-- The queue after a page: the links on the page that have not been visited
are put at its end. -/
def extendQueue (queue visited links : List String) : List String :=
  queue ++ links.filter fun link => !visited.contains link

variable {c : Crawler} {source : Source} {rule : String} {link : String}
  {queue visited : List String}

/-- A link that is left in the queue is fresh. -/
theorem not_mem_of_dropWhile_contains {rest : List String}
    (h : queue.dropWhile visited.contains = link :: rest) : link ∉ visited := by
  have hhead : (queue.dropWhile visited.contains).head? = some link := by rw [h]; rfl
  have hnot := List.head?_dropWhile_not visited.contains queue
  rw [hhead] at hnot
  simpa using hnot

/-- A pause requests nothing. -/
@[simp] theorem requests_pauseAfter : (c.pauseAfter visited).requests = [] := by
  rw [pauseAfter]
  split
  · rfl
  · exact requests_wait _

/-- Without a further link nothing is visited. -/
theorem value_visitTable_nil (n : Nat) (h : queue.dropWhile visited.contains = []) :
    (c.visitTable source rule (n + 1) queue visited).value = [] := by
  rw [visitTable, h]
  rfl

/-- A page that is lost ends the visits. -/
theorem value_visitTable_error {f : Failure} {rest : List String} (n : Nat)
    (hq : queue.dropWhile visited.contains = link :: rest)
    (hl : (c.loadLink source link).value = .error f) :
    (c.visitTable source rule (n + 1) queue visited).value = [⟨link, .error f⟩] := by
  rw [visitTable, hq]
  simp only [Traced.value_bind, hl, Traced.value_pure]

/-- A page that is read is followed by those that it links to. -/
theorem value_visitTable_ok {page : PageText} {rest : List String} (n : Nat)
    (hq : queue.dropWhile visited.contains = link :: rest)
    (hl : (c.loadLink source link).value = .ok page) :
    (c.visitTable source rule (n + 1) queue visited).value =
      ⟨link, .ok (page, (c.readTablePage source rule page).value.1)⟩ ::
        (c.visitTable source rule n
          (extendQueue rest (page.url :: link :: visited)
            (c.readTablePage source rule page).value.2)
          (page.url :: link :: visited)).value := by
  rw [visitTable, hq]
  simp only [Traced.value_bind, hl]
  rfl

/-- Nor is anything requested then. -/
theorem requests_visitTable_nil (n : Nat) (h : queue.dropWhile visited.contains = []) :
    (c.visitTable source rule (n + 1) queue visited).requests = [] := by
  rw [visitTable, h]
  rfl

/-- The page that is lost is the last that is requested. -/
theorem requests_visitTable_error {f : Failure} {rest : List String} (n : Nat)
    (hq : queue.dropWhile visited.contains = link :: rest)
    (hl : (c.loadLink source link).value = .error f) :
    (c.visitTable source rule (n + 1) queue visited).requests =
      (c.loadLink source link).requests := by
  rw [visitTable, hq]
  simp only [Traced.requests_bind, requests_pauseAfter, hl, Traced.requests_pure, List.nil_append,
    List.append_nil]

/-- A page that is read is requested before those that it links to. -/
theorem requests_visitTable_ok {page : PageText} {rest : List String} (n : Nat)
    (hq : queue.dropWhile visited.contains = link :: rest)
    (hl : (c.loadLink source link).value = .ok page) :
    (c.visitTable source rule (n + 1) queue visited).requests =
      (c.openTablePage source rule link).requests ++
        (c.visitTable source rule n
          (extendQueue rest (page.url :: link :: visited)
            (c.readTablePage source rule page).value.2)
          (page.url :: link :: visited)).requests := by
  rw [openTablePage, requests_openPage_ok hl, visitTable, hq]
  simp only [readChapters, readTablePage, Traced.requests_bind, Traced.value_bind,
    requests_pauseAfter, hl, Traced.requests_pure, Traced.value_pure, List.nil_append,
    List.append_nil, List.append_assoc]
  rfl

/-! ## A whole crawl -/

/-- The visits take a course, since links are tested when they leave the
queue. -/
theorem course_visitTable (n : Nat) :
    Visit.Course (c.openTablePage source rule) n visited
      (c.visitTable source rule n queue visited).value
      (c.visitTable source rule n queue visited).requests := by
  induction n generalizing queue visited with
  | zero =>
      rw [visitTable]
      split
      · exact .done
      · exact .done
  | succ n ih =>
      cases hq : queue.dropWhile visited.contains with
      | nil =>
          rw [value_visitTable_nil n hq, requests_visitTable_nil n hq]
          exact .done
      | cons link rest =>
          have hfresh := not_mem_of_dropWhile_contains hq
          cases hl : (c.loadLink source link).value with
          | error f =>
              rw [value_visitTable_error n hq hl, requests_visitTable_error n hq hl]
              have hopened : (c.openTablePage source rule link).value = .error f :=
                value_openPage_error hl
              have hcourse := Visit.Course.failed (n := n) hfresh hopened
              rwa [openTablePage, requests_openPage_error hl] at hcourse
          | ok page =>
              rw [value_visitTable_ok n hq hl, requests_visitTable_ok n hq hl]
              exact .found hfresh (value_openPage_ok hl) ih

/-- The crawl begins with the link that it is given. -/
theorem head?_visitTable (n : Nat) :
    (c.visitTable source rule (n + 1) [link] []).value.head?.map (·.link) = some link := by
  have hq : [link].dropWhile ([] : List String).contains = [link] := rfl
  cases hl : (c.loadLink source link).value with
  | error f => rw [value_visitTable_error n hq hl]; rfl
  | ok page => rw [value_visitTable_ok n hq hl]; rfl

/-! ## Chapters -/

theorem isListed_of_listedChapter? {rules : TocRule} {base : String} {item : Rule.Subject}
    {chapter : Chapter} (h : (c.listedChapter? rules base item).value = some chapter) :
    chapter.IsListed := by
  simp only [listedChapter?, Traced.value_bind] at h
  split at h
  · cases h
  · next hcond =>
    rw [Traced.value_pure, Option.some.injEq] at h
    subst h
    simp only [Bool.or_eq_true, Bool.and_eq_true, String.isEmpty_iff, not_or, not_and,
      Bool.not_eq_true'] at hcond
    refine ⟨hcond.1, ?_⟩
    by_cases hurl : (c.urlField base item rules.chapterUrl).value = ""
    · right
      simpa using hcond.2 hurl
    · exact Or.inl hurl

/-- Every chapter that is read from a page has a title and a link. -/
theorem isListed_of_mem_listedChapters {page : PageText} :
    ∀ chapter ∈ (c.listedChapters source rule page).value, chapter.IsListed := by
  intro chapter hmem
  simp only [listedChapters, Traced.value_bind, Traced.value_pure, Traced.value_forEach] at hmem
  obtain ⟨found, hfound, rfl⟩ := List.mem_filterMap.mp hmem
  obtain ⟨item, -, hitem⟩ := List.mem_map.mp hfound
  exact isListed_of_listedChapter? hitem

/-- What is read on the visits of a table can be listed. -/
theorem isListed_of_mem_readings {n : Nat} {visits : List (Visit (List Chapter))}
    {requests : List Event}
    (h : Visit.Course (c.openTablePage source rule) n visited visits requests) :
    ∀ chapter ∈ (Visit.readings visits).flatten, chapter.IsListed := by
  intro chapter hmem
  obtain ⟨chapters, hchapters, hchapter⟩ := List.mem_flatten.mp hmem
  obtain ⟨⟨link, outcome⟩, hv, hreading⟩ := List.mem_filterMap.mp hchapters
  have hopened : outcome = (c.openTablePage source rule link).value := h.outcome_eq _ hv
  cases hl : (c.loadLink source link).value with
  | error f =>
      rw [openTablePage, value_openPage_error hl] at hopened
      subst hopened
      cases hreading
  | ok page =>
      rw [openTablePage, value_openPage_ok hl] at hopened
      subst hopened
      cases hreading
      exact isListed_of_mem_listedChapters chapter hchapter

/-- Numbering gives every chapter its place and changes nothing else. -/
theorem getElem?_numbered {chapters : List Chapter} {i : Nat} {chapter : Chapter}
    (h : (numbered chapters)[i]? = some chapter) :
    ∃ listed ∈ chapters, chapter = { listed with index := i } := by
  rw [numbered, List.getElem?_mapIdx, Option.map_eq_some_iff] at h
  obtain ⟨listed, hlisted, rfl⟩ := h
  exact ⟨listed, List.mem_of_getElem? hlisted, rfl⟩

/-! ## The table of contents -/

/-- The link to the first page of a table. -/
def tableLink (source : Source) (book : Book) : String := absoluteUrl source.url book.contentsUrl

/-- The visits of the crawl that `chapterList` makes. -/
def tableVisits (c : Crawler) (source : Source) (book : Book) : List (Visit (List Chapter)) :=
  (c.visitTable source (ListOrder.read source.toc.chapterList).2 c.settings.maxPages
    [tableLink source book] []).value

/-- The chapters of a table, in the order that the rule for it asks for. -/
def tableChapters (c : Crawler) (source : Source) (book : Book) : List Chapter :=
  numbered ((ListOrder.read source.toc.chapterList).1.apply
    (Visit.readings (c.tableVisits source book)).flatten)

/-- The chapters are those of the visits, unless the first page is lost. -/
theorem value_chapterList (c : Crawler) (source : Source) (book : Book) :
    (c.chapterList source book).value =
      match Visit.lastFailure? (c.tableVisits source book) with
      | none => .ok (c.tableChapters source book)
      | some (_, f) =>
        if (c.tableVisits source book).length = 1 then .error f
        else .ok (c.tableChapters source book) := by
  simp only [chapterList, Traced.value_bind]
  change (match Visit.lastFailure? (c.tableVisits source book) with
    | none => pure (.ok (c.tableChapters source book))
    | some (link, f) => if (c.tableVisits source book).length = 1 then pure (.error f) else do
        Traced.emit (.tocStopped link f)
        pure (.ok (c.tableChapters source book)) : Traced (Except Failure (List Chapter))).value = _
  cases Visit.lastFailure? (c.tableVisits source book) with
  | none => rfl
  | some last =>
      by_cases hlength : (c.tableVisits source book).length = 1
      · simp only [if_pos hlength]
        rfl
      · simp only [if_neg hlength]
        rfl

/-- The requests are those of the visits. -/
theorem requests_chapterList (c : Crawler) (source : Source) (book : Book) :
    (c.chapterList source book).requests =
      (c.visitTable source (ListOrder.read source.toc.chapterList).2 c.settings.maxPages
        [tableLink source book] []).requests := by
  simp only [chapterList, Traced.requests_bind, tableLink]
  split
  · exact List.append_nil _
  · split
    · exact List.append_nil _
    · rw [Traced.requests_bind, Traced.requests_emit rfl]
      exact List.append_nil _

/-- The table fails with its first page alone. -/
theorem value_chapterList_eq_error_iff (c : Crawler) (source : Source) (book : Book) (f : Failure) :
    (c.chapterList source book).value = .error f ↔
      ∃ link, c.tableVisits source book = [⟨link, .error f⟩] := by
  rw [value_chapterList]
  constructor
  · intro h
    split at h
    · cases h
    · next link g hlast =>
      split at h
      · next hlength =>
        cases h
        obtain ⟨⟨first, outcome⟩, hvisits⟩ := List.length_eq_one_iff.mp hlength
        rw [hvisits] at hlast ⊢
        cases outcome with
        | error e => cases hlast; exact ⟨first, rfl⟩
        | ok found => cases hlast
      · cases h
  · rintro ⟨link, hvisits⟩
    rw [hvisits]
    rfl

/-- A crawl that opens a link at all is one visit that failed exactly when the
page of its first link cannot be loaded. -/
theorem tableVisits_eq_error_iff (c : Crawler) (source : Source) (book : Book) (f : Failure) :
    (∃ link, c.tableVisits source book = [⟨link, .error f⟩]) ↔
      0 < c.settings.maxPages ∧ (c.loadLink source (tableLink source book)).value = .error f := by
  have hq : [tableLink source book].dropWhile ([] : List String).contains =
    [tableLink source book] := rfl
  rw [tableVisits]
  cases c.settings.maxPages with
  | zero => simp [visitTable, Traced.emit]
  | succ n =>
      constructor
      · rintro ⟨link, hvisits⟩
        refine ⟨Nat.succ_pos n, ?_⟩
        cases hl : (c.loadLink source (tableLink source book)).value with
        | error g =>
            rw [value_visitTable_error n hq hl] at hvisits
            cases hvisits
            rfl
        | ok page =>
            rw [value_visitTable_ok n hq hl] at hvisits
            cases hvisits
      · rintro ⟨-, hl⟩
        exact ⟨tableLink source book, value_visitTable_error n hq hl⟩

/-- **The crawl of a table of contents.**  Its visits begin with the link to the
table and are as many as the settings allow at most; what came of each is what
opening its link gives.  No link is opened twice, none is the final URL of an
earlier page, and only the last visit can have failed.  The table fails exactly
when the first page may be loaded and cannot be.  Otherwise its chapters are
numbered from zero in their order, each with a title and with a URL unless it
heads a volume.  The visits make all the requests. -/
theorem chapterList_visits (c : Crawler) (source : Source) (book : Book) :
    let visits := c.tableVisits source book
    let rule := (ListOrder.read source.toc.chapterList).2
    let result := c.chapterList source book
    visits.length ≤ c.settings.maxPages ∧
    (0 < c.settings.maxPages →
      visits.head?.map (·.link) = some (absoluteUrl source.url book.contentsUrl)) ∧
    (∀ v ∈ visits, v.outcome = (c.openTablePage source rule v.link).value) ∧
    (visits.map (·.link)).Nodup ∧
    (visits.Pairwise fun u v => u.finalUrl? ≠ some v.link) ∧
    (∀ v ∈ visits.dropLast, v.succeeded = true) ∧
    (∀ f, result.value = .error f ↔
      0 < c.settings.maxPages ∧
        (c.loadLink source (absoluteUrl source.url book.contentsUrl)).value = .error f) ∧
    (∀ chapters, result.value = .ok chapters →
      ∀ (i : Nat) (chapter : Chapter), chapters[i]? = some chapter →
        chapter.index = i ∧ chapter.title ≠ "" ∧
          (chapter.url ≠ "" ∨ chapter.isVolume = true)) ∧
    result.requests = visits.flatMap fun v => (c.openTablePage source rule v.link).requests := by
  intro visits rule result
  have hcourse : Visit.Course (c.openTablePage source rule) c.settings.maxPages [] visits _ :=
    course_visitTable _
  refine ⟨hcourse.length_le, ?_, hcourse.outcome_eq, hcourse.nodup_links,
    hcourse.pairwise_finalUrl, hcourse.succeeded_of_mem_dropLast, ?_, ?_, ?_⟩
  · intro hpos
    obtain ⟨n, hn⟩ := Nat.exists_eq_succ_of_ne_zero (Nat.ne_of_gt hpos)
    simp only [visits, tableVisits, hn]
    exact head?_visitTable n
  · intro f
    exact (c.value_chapterList_eq_error_iff source book f).trans
      (c.tableVisits_eq_error_iff source book f)
  · intro chapters hok i chapter hi
    have hchapters : chapters = c.tableChapters source book := by
      simp only [result, value_chapterList] at hok
      split at hok
      · cases hok; rfl
      · split at hok
        · cases hok
        · cases hok; rfl
    rw [hchapters] at hi
    obtain ⟨listed, hlisted, rfl⟩ := getElem?_numbered hi
    exact ⟨rfl, isListed_of_mem_readings hcourse listed (mem_apply.mp hlisted)⟩
  · exact (c.requests_chapterList source book).trans hcourse.requests_eq

end Crawler

end Folio
