import Folio.Crawl.Archive
import Folio.Proofs.Crawl.ChapterList
import Folio.Proofs.Crawl.ChapterText
import Mathlib.Data.List.TakeWhile

/-!
# Folio.Proofs.Crawl.Document

The documents that a crawl reads.  A fragment names a place within a document,
so two URLs that differ only in it name the same one.  A crawl compares links
as they are written: it rules out that a link is the final URL of a page it
has read, and nothing more.  A document is therefore read twice exactly when a
later link is redirected to it, or spells its URL with another fragment.
-/

namespace Folio.Crawl.Visit

variable {α : Type}

/-! ## Documents -/

/-- What names the document that a URL leads to: the URL without its
fragment. -/
def withoutFragment (url : String) : String := String.ofList (url.toList.takeWhile (· != '#'))

theorem withoutFragment_eq_self {url : String} (h : '#' ∉ url.toList) :
    withoutFragment url = url := by
  have htake : url.toList.takeWhile (· != '#') = url.toList := by
    rw [List.takeWhile_eq_self_iff]
    intro x hx
    rw [bne_iff_ne]
    rintro rfl
    exact h hx
  rw [withoutFragment, htake, String.ofList_toList]

/-- The document that a visit found. -/
def document? (v : Visit α) : Option String := v.finalUrl?.map withoutFragment

/-- The visits that added something to the outcome of their crawl. -/
def gathered [BEq α] (nothing : α) (visits : List (Visit α)) : List (Visit α) :=
  visits.filter fun v => v.reading?.any (· != nothing)

/-- No document is found twice. -/
def DistinctDocuments (visits : List (Visit α)) : Prop :=
  visits.Pairwise fun u v => u.document? ≠ v.document?

/-- The link of the visit `v` is redirected to the document of `u`. -/
def LedBack (u v : Visit α) : Prop :=
  v.finalUrl? ≠ some v.link ∧ u.document? = v.document?

/-- The link of the visit `v` spells the URL of `u` with another fragment. -/
def Respelled (u v : Visit α) : Prop :=
  v.finalUrl? = some v.link ∧ u.finalUrl? ≠ v.finalUrl? ∧ u.document? = v.document?

/-- A document is found again by a redirection or by another spelling, unless
the link is the very URL that it was found at. -/
theorem document?_ne_iff {u v : Visit α} (h : u.finalUrl? ≠ some v.link) :
    u.document? ≠ v.document? ↔ ¬LedBack u v ∧ ¬Respelled u v := by
  constructor
  · intro hne
    exact ⟨fun hled => hne hled.2, fun hspelled => hne hspelled.2.2⟩
  · rintro ⟨hled, hspelled⟩ heq
    by_cases hfinal : v.finalUrl? = some v.link
    · exact hspelled ⟨hfinal, by rw [hfinal]; exact h, heq⟩
    · exact hled ⟨hfinal, heq⟩

theorem distinctDocuments_iff_of_pairwise {visits : List (Visit α)}
    (h : visits.Pairwise fun u v => u.finalUrl? ≠ some v.link) :
    DistinctDocuments visits ↔ visits.Pairwise fun u v => ¬LedBack u v ∧ ¬Respelled u v := by
  rw [DistinctDocuments]
  induction visits with
  | nil => simp
  | cons u rest ih =>
      obtain ⟨hfirst, hrest⟩ := List.pairwise_cons.mp h
      rw [List.pairwise_cons, List.pairwise_cons, ih hrest]
      have hu : (∀ v ∈ rest, u.document? ≠ v.document?) ↔
          ∀ v ∈ rest, ¬LedBack u v ∧ ¬Respelled u v :=
        forall₂_congr fun v hv => document?_ne_iff (hfirst v hv)
      rw [hu]

/-- A page that answers under its own link, which has no fragment, is found
only once. -/
theorem distinctDocuments_of_plain {visits : List (Visit α)}
    (h : visits.Pairwise fun u v => u.finalUrl? ≠ some v.link)
    (hplain : ∀ v ∈ visits, v.finalUrl? = some v.link ∧ '#' ∉ v.link.toList) :
    DistinctDocuments visits := by
  refine h.imp_of_mem ?_
  intro u v hu hv hne heq
  obtain ⟨hufinal, hufragment⟩ := hplain u hu
  obtain ⟨hvfinal, hvfragment⟩ := hplain v hv
  have hlinks : u.link = v.link := by
    simpa [document?, hufinal, hvfinal, withoutFragment_eq_self hufragment,
      withoutFragment_eq_self hvfragment] using heq
  exact hne (hufinal.trans (congrArg some hlinks))

end Folio.Crawl.Visit

namespace Folio.Crawler

open Folio.Text Folio.Crawl Folio.Crawl.Visit

/-! ## Crawls -/

/-- The visits whose bodies make up the text of a chapter. -/
def gatheredPages (c : Crawler) (source : Source) (chapterUrl : String)
    (nextChapter : Option String) : List (Visit String) :=
  gathered "" (c.chapterVisits source chapterUrl nextChapter)

/-- The visits whose chapters make up a table of contents. -/
def gatheredTables (c : Crawler) (source : Source) (book : Book) : List (Visit (List Chapter)) :=
  gathered [] (c.tableVisits source book)

/-- **Documents read twice.**  The documents that a crawl gathers the text of a
chapter from are distinct exactly when no link that it follows is redirected to
one of them or spells the URL of one with another fragment; they are whenever
pages answer under their own links and these have no fragments.  The same holds
of the documents that it gathers a table of contents from. -/
theorem distinctDocuments_gathered_iff (c : Crawler) (source : Source) (chapterUrl : String)
    (nextChapter : Option String) (book : Book) :
    let pages := c.gatheredPages source chapterUrl nextChapter
    let tables := c.gatheredTables source book
    (DistinctDocuments pages ↔ pages.Pairwise fun u v => ¬LedBack u v ∧ ¬Respelled u v) ∧
    ((∀ v ∈ pages, v.finalUrl? = some v.link ∧ '#' ∉ v.link.toList) → DistinctDocuments pages) ∧
    (DistinctDocuments tables ↔ tables.Pairwise fun u v => ¬LedBack u v ∧ ¬Respelled u v) ∧
    ((∀ v ∈ tables, v.finalUrl? = some v.link ∧ '#' ∉ v.link.toList) →
      DistinctDocuments tables) := by
  intro pages tables
  have hpages : pages.Pairwise fun u v => u.finalUrl? ≠ some v.link := by
    have hcourse : Visit.Course (c.openChapterPage source (chapterRule source nextChapter))
        c.settings.maxPages [] (c.chapterVisits source chapterUrl nextChapter) _ :=
      course_visitChapter _ List.not_mem_nil
    exact hcourse.pairwise_finalUrl.sublist List.filter_sublist
  have htables : tables.Pairwise fun u v => u.finalUrl? ≠ some v.link := by
    have hcourse : Visit.Course (c.openTablePage source (ListOrder.read source.toc.chapterList).2)
        c.settings.maxPages [] (c.tableVisits source book) _ :=
      course_visitTable _
    exact hcourse.pairwise_finalUrl.sublist List.filter_sublist
  exact ⟨distinctDocuments_iff_of_pairwise hpages, distinctDocuments_of_plain hpages,
    distinctDocuments_iff_of_pairwise htables, distinctDocuments_of_plain htables⟩

/-- A page whose text is an object with a body and a link to the page itself,
`#`. -/
def selfLinkedPage : String := "\x7b\"b\":\"A\",\"n\":\"#\"\x7d"

/-- A crawler of a site that has one page, under the URLs `https://s.com/1` and
`https://s.com/1#`. -/
def selfLinkedCrawler : Crawler where
  settings := { script := ⟨200000, 4194304⟩ }
  fetcher := Archive.fetcher
    [⟨"https://s.com/1", 0, .ok ⟨"https://s.com/1", none, Utf8.bytes selfLinkedPage⟩⟩,
      ⟨"https://s.com/1#", 0, .ok ⟨"https://s.com/1#", none, Utf8.bytes selfLinkedPage⟩⟩]
  evaluator := fun _ _ => pure (.ok .empty)

/-- The source of that site: its chapters and their next links are members of
objects. -/
def selfLinkedSource : Source :=
  { url := "https://s.com", content := { content := "$.b", nextContentUrl := "$.n" } }

/-- A link to a place within the page itself has the page read twice, and its
text stand twice in the chapter. -/
theorem not_distinctDocuments_selfLinked :
    (selfLinkedCrawler.content selfLinkedSource "/1" none).value = ⟨"/1", "　　A\n　　A", 2⟩ ∧
    ¬DistinctDocuments (selfLinkedCrawler.gatheredPages selfLinkedSource "/1" none) := by
  have hdocuments : (selfLinkedCrawler.gatheredPages selfLinkedSource "/1" none).map document? =
      [some "https://s.com/1", some "https://s.com/1"] := by
    decide +kernel
  refine ⟨by decide +kernel, ?_⟩
  intro hdistinct
  have hnodup := List.pairwise_map.mpr hdistinct
  rw [hdocuments] at hnodup
  simp at hnodup

end Folio.Crawler
