import Folio.Crawl.Archive
import Folio.Proofs.Crawl.ChapterList
import Folio.Proofs.Crawl.ChapterText

/-!
# Folio.Proofs.Crawl.PageCap

How many pages may be read.  A crawl that may read fewer pages makes the first
visits of one that may read more (`chapterVisits_withCap`,
`tableVisits_withCap`), so that more pages only add to a chapter and to a table
of contents, and a page that fails ends a crawl as if no more pages might be
read (`crawls_withCap`).
-/

namespace Folio

namespace Crawl.Visit

variable {α : Type} {visits front : List (Visit α)} {link : String} {f : Failure}

/-- The visits end with one that failed, after the others. -/
def EndsFailing (visits front : List (Visit α)) : Prop :=
  ∃ link f, visits = front ++ [⟨link, .error f⟩]

theorem endsFailing_of_lastFailure? (h : lastFailure? visits = some (link, f)) :
    EndsFailing visits visits.dropLast := by
  obtain ⟨⟨last, outcome⟩, hlast, hfailure⟩ := Option.bind_eq_some_iff.mp h
  cases outcome with
  | ok found => cases hfailure
  | error g =>
      obtain ⟨front, rfl⟩ := List.getLast?_eq_some_iff.mp hlast
      rw [List.dropLast_concat]
      exact ⟨last, g, rfl⟩

/-- A visit that failed gives nothing to read. -/
theorem EndsFailing.readings_eq (h : EndsFailing visits front) :
    readings visits = readings front := by
  obtain ⟨link, f, rfl⟩ := h
  rw [readings, List.filterMap_append, readings]
  exact List.append_nil _

theorem readings_isPrefix (h : front <+: visits) : readings front <+: readings visits :=
  h.filterMap _

theorem lastFailure?_eq_none (h : ∀ v ∈ visits, v.succeeded = true) :
    lastFailure? visits = none := by
  rw [lastFailure?, Option.bind_eq_none_iff]
  intro v hv
  have hok := h v (List.mem_of_getLast? hv)
  rw [succeeded] at hok
  cases hv : v.outcome with
  | ok found => rfl
  | error f => rw [hv] at hok; contradiction

/-- In a course that ends with a visit that failed, the others found pages, and are
the visits that could have been made without it. -/
theorem Course.endsFailing {openLink : String → Traced (Except Failure (PageText × α))} {n : Nat}
    {visited : List String} {requests : List Event} (h : Course openLink n visited visits requests)
    (hfail : EndsFailing visits front) :
    (∀ v ∈ front, v.succeeded = true) ∧ front.length ≤ n ∧ visits.take front.length = front := by
  obtain ⟨link, f, rfl⟩ := hfail
  have hlength := h.length_le
  have hfound := h.succeeded_of_mem_dropLast
  rw [List.length_append, List.length_singleton] at hlength
  rw [List.dropLast_concat] at hfound
  exact ⟨hfound, Nat.le_of_succ_le hlength, List.take_left⟩

end Crawl.Visit

namespace Crawler

open Folio.Text Folio.Crawl

/-- The crawler, when at most the given number of pages of a chapter or of a table may
be read. -/
def withCap (c : Crawler) (pages : Nat) : Crawler :=
  { c with settings := { c.settings with maxPages := pages } }

variable {c : Crawler} {source : Source}

/-! ## Chapters -/

section Chapter

variable {rule : ChapterRule}

/-- What is found on a page does not depend on how many may be read in all. -/
theorem value_visitChapter_withCap (cap n : Nat) (link : String) (visited : List String) :
    ((c.withCap cap).visitChapter source rule n link visited).value =
      (c.visitChapter source rule n link visited).value := by
  induction n generalizing link visited with
  | zero => rfl
  | succ n ih =>
      cases hl : (c.loadLink source link).value with
      | error f =>
          rw [value_visitChapter_error n hl, value_visitChapter_error (c := c.withCap cap) n hl]
      | ok page =>
          have hread : (c.withCap cap).readPage rule page = c.readPage rule page := rfl
          rw [value_visitChapter_ok n hl, value_visitChapter_ok (c := c.withCap cap) n hl, hread,
            furtherVisits, furtherVisits]
          cases onward? rule (page.url :: link :: visited) (c.readPage rule page).value.2 with
          | none => rfl
          | some next => simp only [ih]

/-- Fewer visits are the first ones. -/
theorem value_visitChapter_take {m n : Nat} (h : m ≤ n) (link : String) (visited : List String) :
    (c.visitChapter source rule m link visited).value =
      (c.visitChapter source rule n link visited).value.take m := by
  induction m generalizing n link visited with
  | zero => rfl
  | succ m ih =>
      obtain ⟨n, rfl⟩ := Nat.exists_eq_succ_of_ne_zero (Nat.ne_zero_of_lt h)
      cases hl : (c.loadLink source link).value with
      | error f =>
          simp [value_visitChapter_error m hl, value_visitChapter_error n hl]
      | ok page =>
          rw [value_visitChapter_ok m hl, value_visitChapter_ok n hl, List.take_succ_cons,
            furtherVisits, furtherVisits]
          cases onward? rule (page.url :: link :: visited) (c.readPage rule page).value.2 with
          | none => rw [Traced.value_pure, List.take_nil]
          | some next => rw [ih (Nat.le_of_succ_le_succ h)]

end Chapter

/-- The bodies that the text of a chapter is made of. -/
def chapterBodies (c : Crawler) (source : Source) (chapterUrl : String)
    (nextChapter : Option String) : List String :=
  (Visit.readings (c.chapterVisits source chapterUrl nextChapter)).filter (· != "")

/-- **Fewer pages of a chapter.** -/
theorem chapterVisits_withCap {m n : Nat} (h : m ≤ n) (chapterUrl : String)
    (nextChapter : Option String) : (c.withCap m).chapterVisits source chapterUrl nextChapter =
      ((c.withCap n).chapterVisits source chapterUrl nextChapter).take m := by
  rw [chapterVisits, chapterVisits, value_visitChapter_withCap, value_visitChapter_withCap]
  exact value_visitChapter_take h _ _

/-- Fewer pages of a chapter give the first bodies. -/
theorem chapterBodies_isPrefix {m n : Nat} (h : m ≤ n) (chapterUrl : String)
    (nextChapter : Option String) : (c.withCap m).chapterBodies source chapterUrl nextChapter <+:
      (c.withCap n).chapterBodies source chapterUrl nextChapter := by
  rw [chapterBodies, chapterVisits_withCap h]
  exact (Visit.readings_isPrefix (List.take_prefix _ _)).filter _

/-! ## Tables of contents -/

section Table

variable {rule : String}

@[simp] theorem value_visitTable_withCap (cap n : Nat) (queue visited : List String) :
    ((c.withCap cap).visitTable source rule n queue visited).value =
      (c.visitTable source rule n queue visited).value := by
  induction n generalizing queue visited with
  | zero =>
      rw [visitTable, visitTable]
      split
      · rfl
      · rfl
  | succ n ih =>
      cases hq : queue.dropWhile visited.contains with
      | nil => rw [value_visitTable_nil n hq, value_visitTable_nil n hq]
      | cons link rest =>
          cases hl : (c.loadLink source link).value with
          | error f =>
              rw [value_visitTable_error n hq hl,
                value_visitTable_error (c := c.withCap cap) n hq hl]
          | ok page =>
              have hread : (c.withCap cap).readTablePage source rule page =
                c.readTablePage source rule page := rfl
              rw [value_visitTable_ok n hq hl, value_visitTable_ok (c := c.withCap cap) n hq hl,
                hread, ih]

theorem value_visitTable_take {m n : Nat} (h : m ≤ n) (queue visited : List String) :
    (c.visitTable source rule m queue visited).value =
      (c.visitTable source rule n queue visited).value.take m := by
  induction m generalizing n queue visited with
  | zero =>
      rw [visitTable, List.take_zero]
      split
      · rfl
      · rfl
  | succ m ih =>
      obtain ⟨n, rfl⟩ := Nat.exists_eq_succ_of_ne_zero (Nat.ne_zero_of_lt h)
      cases hq : queue.dropWhile visited.contains with
      | nil => rw [value_visitTable_nil m hq, value_visitTable_nil n hq, List.take_nil]
      | cons link rest =>
          cases hl : (c.loadLink source link).value with
          | error f =>
              simp [value_visitTable_error m hq hl, value_visitTable_error n hq hl]
          | ok page =>
              simp [value_visitTable_ok m hq hl, value_visitTable_ok n hq hl,
                ih (Nat.le_of_succ_le_succ h)]

end Table

/-- **Fewer pages of a table.** -/
theorem tableVisits_withCap {m n : Nat} (h : m ≤ n) (book : Book) :
    (c.withCap m).tableVisits source book = ((c.withCap n).tableVisits source book).take m := by
  rw [tableVisits, tableVisits, value_visitTable_withCap, value_visitTable_withCap]
  exact value_visitTable_take h _ _

/-- Numbering starts at the beginning. -/
theorem numbered_isPrefix {few many : List Chapter} (h : few <+: many) :
    numbered few <+: numbered many := by
  obtain ⟨rest, rfl⟩ := h
  rw [numbered, numbered, List.mapIdx_append]
  exact List.prefix_append _ _

/-- Fewer pages of a table in the order of its pages give the first chapters. -/
theorem tableChapters_isPrefix (hforward : (ListOrder.read source.toc.chapterList).1 = .forward)
    {m n : Nat} (h : m ≤ n) (book : Book) :
    (c.withCap m).tableChapters source book <+: (c.withCap n).tableChapters source book := by
  have hvisits : (c.withCap m).tableVisits source book <+:
      (c.withCap n).tableVisits source book := by
    rw [tableVisits_withCap h]
    exact List.take_prefix _ _
  obtain ⟨rest, hrest⟩ := Visit.readings_isPrefix hvisits
  rw [tableChapters, tableChapters, hforward, ← hrest, List.flatten_append]
  exact numbered_isPrefix (List.prefix_append _ _)

theorem tableChapters_eq_of_ok {book : Book} {chapters : List Chapter}
    (h : (c.chapterList source book).value = .ok chapters) :
    chapters = c.tableChapters source book := by
  rw [value_chapterList] at h
  split at h
  · cases h; rfl
  · split at h
    · cases h
    · cases h; rfl

/-! ## Pages that fail -/

/-- A chapter that a page ended has as many pages as were found before it, and is the
one of a crawl that may not read more. -/
theorem content_of_endsFailing {chapterUrl : String} {nextChapter : Option String}
    {front : List (Visit String)}
    (h : Visit.EndsFailing (c.chapterVisits source chapterUrl nextChapter) front) :
    (c.content source chapterUrl nextChapter).value.pages = front.length ∧
      (c.content source chapterUrl nextChapter).value =
        ((c.withCap front.length).content source chapterUrl nextChapter).value := by
  have hcourse : Visit.Course (c.openChapterPage source (chapterRule source nextChapter))
      c.settings.maxPages [] (c.chapterVisits source chapterUrl nextChapter) _ :=
    course_visitChapter _ List.not_mem_nil
  obtain ⟨hfound, hlength, htake⟩ := hcourse.endsFailing h
  have hfront : (c.withCap front.length).chapterVisits source chapterUrl nextChapter = front :=
    (chapterVisits_withCap hlength chapterUrl nextChapter).trans htake
  constructor
  · have hpages : (c.content source chapterUrl nextChapter).value.pages =
        (Visit.readings (c.chapterVisits source chapterUrl nextChapter)).length :=
      congrArg Content.pages (c.value_content source chapterUrl nextChapter)
    rw [hpages, h.readings_eq, Visit.length_readings, List.filter_eq_self.mpr hfound]
  · simp [value_content, h.readings_eq, hfront]

/-- A table that a page ended after others has the chapters of a crawl that may not read
more. -/
theorem chapterList_of_endsFailing {book : Book} {front : List (Visit (List Chapter))}
    (h : Visit.EndsFailing (c.tableVisits source book) front) (hne : front ≠ []) :
    (∀ v ∈ front, v.succeeded = true) ∧
      (c.chapterList source book).value = .ok (c.tableChapters source book) ∧
      ((c.withCap front.length).chapterList source book).value =
        .ok (c.tableChapters source book) := by
  have hcourse : Visit.Course (c.openTablePage source (ListOrder.read source.toc.chapterList).2)
      c.settings.maxPages [] (c.tableVisits source book) _ :=
    course_visitTable _
  obtain ⟨hfound, hlength, htake⟩ := hcourse.endsFailing h
  have hfront : (c.withCap front.length).tableVisits source book = front :=
    (tableVisits_withCap hlength book).trans htake
  have hchapters : (c.withCap front.length).tableChapters source book =
      c.tableChapters source book := by
    simp [tableChapters, h.readings_eq, hfront]
  have hcapped : ((c.withCap front.length).chapterList source book).value =
      .ok (c.tableChapters source book) := by
    rw [value_chapterList, hfront, Visit.lastFailure?_eq_none hfound, hchapters]
  have hlist : (c.chapterList source book).value = .ok (c.tableChapters source book) := by
    obtain ⟨link, f, hvisits⟩ := h
    have hlast : Visit.lastFailure? (c.tableVisits source book) = some (link, f) := by
      rw [hvisits, Visit.lastFailure?, List.getLast?_concat]
      rfl
    have hmany : (c.tableVisits source book).length ≠ 1 := by
      rw [hvisits, List.length_append, List.length_singleton]
      have hpos := List.length_pos_iff.mpr hne
      omega
    rw [value_chapterList, hlast]
    exact if_neg hmany
  exact ⟨hfound, hlist, hcapped⟩

/-! ## Limits -/

/-- **The limit of pages.**  More pages only add: the bodies that a chapter is made of,
and the chapters of a table in the order of its pages, begin with those that
fewer pages give.  A page that cannot be loaded ends a chapter, and a table
after its first page, as if only the pages before it might be read. -/
theorem crawls_withCap (c : Crawler) (source : Source) (chapterUrl : String)
    (nextChapter : Option String) (book : Book) {m n : Nat} (h : m ≤ n) :
    (∀ cap, ((c.withCap cap).content source chapterUrl nextChapter).value.text =
      (Typeset.typeset ("\n".intercalate
        ((c.withCap cap).chapterBodies source chapterUrl nextChapter))
        source.content.replaceRegex).value) ∧
    (c.withCap m).chapterBodies source chapterUrl nextChapter <+:
      (c.withCap n).chapterBodies source chapterUrl nextChapter ∧
    (∀ front, Visit.EndsFailing ((c.withCap n).chapterVisits source chapterUrl nextChapter) front →
      ((c.withCap n).content source chapterUrl nextChapter).value.pages = front.length ∧
      ((c.withCap n).content source chapterUrl nextChapter).value =
        ((c.withCap front.length).content source chapterUrl nextChapter).value) ∧
    ((ListOrder.read source.toc.chapterList).1 = .forward → ∀ few many,
      ((c.withCap m).chapterList source book).value = .ok few →
      ((c.withCap n).chapterList source book).value = .ok many → few <+: many) ∧
    (∀ front, Visit.EndsFailing ((c.withCap n).tableVisits source book) front → front ≠ [] →
      (∀ v ∈ front, v.succeeded = true) ∧ ∃ chapters,
        ((c.withCap n).chapterList source book).value = .ok chapters ∧
        ((c.withCap front.length).chapterList source book).value = .ok chapters) := by
  refine ⟨fun cap => ?_, chapterBodies_isPrefix h chapterUrl nextChapter,
    fun front hfail => content_of_endsFailing hfail, fun hforward few many hfew hmany => ?_,
    fun front hfail hne => ?_⟩
  · exact congrArg Content.text ((c.withCap cap).value_content source chapterUrl nextChapter)
  · rw [tableChapters_eq_of_ok hfew, tableChapters_eq_of_ok hmany]
    exact tableChapters_isPrefix hforward h book
  · obtain ⟨hfound, hlist, hcapped⟩ := chapterList_of_endsFailing hfail hne
    exact ⟨hfound, _, hlist, hcapped⟩

/-- A page with a body, a chapter and a link to a second page. -/
def firstPage : String :=
  "\x7b\"b\":\"A\",\"n\":\"/2\",\"l\":[\x7b\"t\":\"One\",\"u\":\"/c\"\x7d]\x7d"

/-- A crawler of a site whose second page is missing. -/
def lostPageCrawler : Crawler where
  settings := { script := ⟨200000, 4194304⟩ }
  fetcher := Archive.fetcher
    [⟨"https://s.com/1", 0, .ok ⟨"https://s.com/1", none, Utf8.bytes firstPage⟩⟩]
  evaluator := fun _ _ => pure (.ok .empty)

/-- The source of that site. -/
def lostPageSource : Source :=
  { url := "https://s.com", content := { content := "$.b", nextContentUrl := "$.n" },
    toc := { chapterList := "$.l[*]", chapterName := "$.t", chapterUrl := "$.u",
             nextTocUrl := "$.n" } }

/-- The missing page ends the chapter and the table after the first page, which a crawl
of one page gives as well. -/
theorem crawls_withCap_lostPage :
    1 ≤ 2 ∧
    ((lostPageCrawler.withCap 2).content lostPageSource "/1" none).value =
      ((lostPageCrawler.withCap 1).content lostPageSource "/1" none).value ∧
    ((lostPageCrawler.withCap 1).content lostPageSource "/1" none).value = ⟨"/1", "　　A", 1⟩ ∧
    ((lostPageCrawler.withCap 2).chapterList lostPageSource { bookUrl := "/1" }).value =
      ((lostPageCrawler.withCap 1).chapterList lostPageSource { bookUrl := "/1" }).value := by
  obtain ⟨-, -, hchapter, -, htable⟩ := crawls_withCap lostPageCrawler lostPageSource "/1" none
    { bookUrl := "/1" } (show 1 ≤ 2 by decide)
  have hlostPage : Visit.lastFailure?
      ((lostPageCrawler.withCap 2).chapterVisits lostPageSource "/1" none) =
        some ("https://s.com/2", .other "no page at https://s.com/2") := by decide +kernel
  have hlostTable : Visit.lastFailure?
      ((lostPageCrawler.withCap 2).tableVisits lostPageSource { bookUrl := "/1" }) =
        some ("https://s.com/2", .other "no page at https://s.com/2") := by decide +kernel
  have hpages : ((lostPageCrawler.withCap 2).chapterVisits lostPageSource "/1" none).dropLast.length
      = 1 := by decide +kernel
  have htables : ((lostPageCrawler.withCap 2).tableVisits lostPageSource
      { bookUrl := "/1" }).dropLast.length = 1 := by decide +kernel
  have hcontent := (hchapter _ (Visit.endsFailing_of_lastFailure? hlostPage)).2
  obtain ⟨-, chapters, hlist, hcapped⟩ := htable _ (Visit.endsFailing_of_lastFailure? hlostTable)
    (List.ne_nil_of_length_pos (by rw [htables]; decide))
  rw [hpages] at hcontent
  rw [htables] at hcapped
  exact ⟨by decide, hcontent, by decide +kernel, hlist.trans hcapped.symm⟩

end Crawler

end Folio
