import Folio.Crawl.Archive
import Folio.Proofs.Book
import Folio.Proofs.Crawl.Basic
import Folio.Proofs.Crawl.Search

/-!
# Folio.Proofs.Crawl.Identity

The ids of the books that a search finds.  Whatever a search delivers is what the
reply to one of its sources was read as (`isFound_of_mem_deliveries`): every step
of a search keeps that (`Step.isFrom`), and so does every turn of its schedule.
Such a batch lists books under the URL of its source, each known by that URL and
its own (`isNamed_of_searchReply`), so that two books of a search share an id exactly
when their URLs do (`id_eq_iff`).
-/

namespace Folio.Crawler

open Folio.Crawl

variable {c : Crawler} {source : Source} {book : Book}

/-! ## The books of one source -/

/-- The book is one of the source, and is known by its URL and its own. -/
structure IsNamed (source : Source) (book : Book) : Prop where
  origin : book.origin = source.url
  id : book.id = Book.generateId book.origin book.bookUrl

theorem isNamed_of_listedBook? {rules : ListRule} {item : Rule.Subject}
    (h : (c.listedBook? source rules item).value = some book) : IsNamed source book := by
  rw [listedBook?, Traced.value_bind, Traced.value_bind] at h
  split at h
  · contradiction
  · simp only [Traced.value_bind, Traced.value_pure, Option.some.injEq] at h
    subst h
    exact ⟨rfl, rfl⟩

theorem isNamed_of_mem_listedBooks {rules : ListRule} {page : PageText}
    (h : book ∈ (c.listedBooks source rules page).value) : IsNamed source book := by
  simp only [listedBooks, Traced.value_bind, Traced.value_pure, Traced.value_forEach, mem_apply,
    List.mem_filterMap, List.mem_map, id_eq] at h
  obtain ⟨_, ⟨item, -, rfl⟩, hbook⟩ := h
  exact isNamed_of_listedBook? hbook

/-- A reply that is read as a batch is one of books of its source. -/
theorem isNamed_of_searchReply {request : Request} {reply : Reply} {batch : SearchBatch}
    (h : (c.searchReply source request reply).value = some batch) (hbook : book ∈ batch.books) :
    IsNamed source book := by
  rw [searchReply, Traced.value_bind] at h
  split at h
  · contradiction
  · next page _ =>
    have h := Traced.value_of_asTask h
    simp only [Traced.value_bind, Traced.value_pure, Option.some.injEq] at h
    subst h
    dsimp only at hbook
    exact isNamed_of_mem_listedBooks hbook

end Folio.Crawler

namespace Folio.Crawl

variable {c : Crawler} {keyword : String} {sources : List Source} {batch : SearchBatch}

/-! ## The batches of a search -/

/-- The batch is what a reply to one of the sources is read as. -/
def IsFound (c : Crawler) (sources : List Source) (batch : SearchBatch) : Prop :=
  ∃ source ∈ sources, ∃ request reply, (c.searchReply source request reply).value = some batch

/-- The strand is the search of one of the sources, or what was found by one. -/
def Strand.IsFrom (c : Crawler) (sources : List Source) : Strand → Prop
  | .waiting source => source ∈ sources
  | .admitted source => source ∈ sources
  | .sent source _ _ => source ∈ sources
  | .finished found => ∀ batch ∈ found, IsFound c sources batch

/-- All that is searched, was found and has been delivered is from the sources. -/
structure FanOut.IsFrom (c : Crawler) (sources : List Source) (s : FanOut) : Prop where
  strands : ∀ strand ∈ s.strands, strand.IsFrom c sources
  delivered : ∀ batch ∈ s.delivered, IsFound c sources batch

/-- **One step** brings in nothing from elsewhere. -/
theorem Step.isFrom {s t : FanOut} (h : Step c keyword s t) (hs : s.IsFrom c sources) :
    t.IsFrom c sources := by
  obtain ⟨hstrands, hdelivered⟩ := hs
  cases h with
  | acquire =>
      obtain ⟨hsource, hothers⟩ := Multiset.forall_mem_cons.mp hstrands
      exact ⟨Multiset.forall_mem_cons.mpr ⟨hsource, hothers⟩, hdelivered⟩
  | send built =>
      obtain ⟨hsource, hothers⟩ := Multiset.forall_mem_cons.mp hstrands
      exact ⟨Multiset.forall_mem_cons.mpr ⟨hsource, hothers⟩, hdelivered⟩
  | fail built =>
      obtain ⟨-, hothers⟩ := Multiset.forall_mem_cons.mp hstrands
      have hnone : Strand.IsFrom c sources (.finished none) := by simp [Strand.IsFrom]
      exact ⟨Multiset.forall_mem_cons.mpr ⟨hnone, hothers⟩, hdelivered⟩
  | @answer _ source request reply =>
      obtain ⟨hsource, hothers⟩ := Multiset.forall_mem_cons.mp hstrands
      have hreply : Strand.IsFrom c sources
          (.finished (c.searchReply source request reply).value) :=
        fun batch hbatch => ⟨source, hsource, request, reply, hbatch⟩
      exact ⟨Multiset.forall_mem_cons.mpr ⟨hreply, hothers⟩, hdelivered⟩
  | join =>
      obtain ⟨hfound, hothers⟩ := Multiset.forall_mem_cons.mp hstrands
      refine ⟨hothers, List.forall_mem_append.mpr ⟨hdelivered, fun batch hbatch => ?_⟩⟩
      have hkept := Option.filter_eq_some_iff.mp (Option.mem_toList.mp hbatch)
      exact hfound batch hkept.1

theorem Run.isFrom {n : Nat} {s t : FanOut} (h : Run c keyword n s t)
    (hs : s.IsFrom c sources) : t.IsFrom c sources := by
  induction h with
  | done => exact hs
  | step first _ ih => exact ih (first.isFrom hs)

namespace Schedule

variable {s t : Schedule}

/-- All that is searched and was found is from the sources. -/
def IsFrom (c : Crawler) (sources : List Source) (s : Schedule) : Prop :=
  (s.fanOut []).IsFrom c sources

theorem IsFrom.finished (h : s.IsFrom c sources) :
    ∀ batch ∈ s.finished, IsFound c sources batch := by
  intro batch hbatch
  refine h.strands (.finished (some batch)) ?_ batch rfl
  simp only [fanOut, strands, Multiset.mem_add, Multiset.mem_coe]
  exact Or.inr (Or.inr (List.mem_map_of_mem hbatch))

/-- What has been delivered is no longer there. -/
theorem IsFrom.drop (h : s.IsFrom c sources) (n : Nat) :
    IsFrom c sources { s with finished := s.finished.drop n } := by
  refine ⟨fun strand hmem => h.strands strand ?_, by simp [fanOut]⟩
  simp only [fanOut, strands, Multiset.mem_add, Multiset.mem_coe] at hmem ⊢
  refine hmem.imp_right (Or.imp_right fun hfinished => ?_)
  exact List.map_subset _ (List.drop_subset n s.finished) hfinished

theorem LeadsTo.isFrom {n : Nat} (h : LeadsTo c keyword n s t) (hs : s.IsFrom c sources) :
    t.IsFrom c sources := by
  obtain ⟨steps, hrun⟩ := h.reaches []
  exact hrun.isFrom hs

theorem isFrom_start (permits : Nat) (sources : List Source) :
    IsFrom c sources (start permits (Crawler.searchTasks sources)) := by
  refine ⟨fun strand hmem => ?_, by simp [fanOut]⟩
  rw [fanOut_start] at hmem
  obtain ⟨source, hsource, rfl⟩ := List.mem_map.mp (Multiset.mem_coe.mp hmem)
  exact List.mem_of_mem_filter ((searchTasks_perm sources).mem_iff.mp hsource)

/-- **Rounds** deliver nothing from elsewhere. -/
theorem isFound_of_mem_searchRounds {rounds : Nat} {wanted : Option Nat} (hs : s.IsFrom c sources)
    {delivery : Delivery}
    (h : delivery ∈ (c.searchRounds keyword rounds wanted s).value.deliveries) :
    IsFound c sources delivery.batch := by
  induction rounds generalizing s wanted with
  | zero => exact absurd h List.not_mem_nil
  | succ rounds ih =>
      rw [Crawler.searchRounds] at h
      split at h
      · exact absurd h List.not_mem_nil
      · split at h
        · exact absurd h List.not_mem_nil
        · next hbusy =>
          simp only [Traced.value_bind, Traced.value_pure] at h
          have hround : LeadsTo c keyword 1 s _ := leadsTo_round hbusy
          have ht := hround.isFrom hs
          rcases List.mem_append.mp h with h | h
          · obtain ⟨batch, hbatch, rfl⟩ := List.mem_map.mp h
            refine ht.finished batch ?_
            cases wanted with
            | none => exact hbatch
            | some wanted => exact List.mem_of_mem_take hbatch
          · exact ih (ht.drop _) h

end Schedule

/-- **What a search delivers** is what replies to its sources are read as. -/
theorem isFound_of_mem_deliveries {wanted : Option Nat} {delivery : Delivery}
    (h : delivery ∈ (c.search sources keyword wanted).value.deliveries) :
    IsFound c sources delivery.batch :=
  Schedule.isFound_of_mem_searchRounds (Schedule.isFrom_start _ sources) h

end Folio.Crawl

namespace Folio.Crawler

open Folio.Text Folio.Crawl

/-! ## The books of a search -/

/-- The books that a search finds. -/
def foundBooks (c : Crawler) (sources : List Source) (keyword : String) (wanted : Option Nat) :
    List Book :=
  (c.search sources keyword wanted).value.deliveries.flatMap (·.batch.books)

/-- A book that a search finds is known by the URL of one of the sources and its own. -/
theorem exists_isNamed_of_mem_foundBooks {c : Crawler} {sources : List Source} {keyword : String}
    {wanted : Option Nat} {book : Book} (h : book ∈ c.foundBooks sources keyword wanted) :
    ∃ source ∈ sources, IsNamed source book := by
  obtain ⟨delivery, hdelivery, hbook⟩ := List.mem_flatMap.mp h
  obtain ⟨source, hsource, request, reply, hreply⟩ := isFound_of_mem_deliveries hdelivery
  exact ⟨source, hsource, isNamed_of_searchReply hreply hbook⟩

/-- **Books that share an id.**  Two pairs of URLs have one id exactly when they are the same,
when one source URL goes on with the beginning of the URL of the other's book, or when
the digest collides, and two books that a search finds, each under the URL of one of
the sources, share an id exactly when that holds of their URLs. -/
theorem id_eq_iff (c : Crawler) (sources : List Source) (keyword : String)
    (wanted : Option Nat) :
    (∀ origin url origin' url', Book.generateId origin url = Book.generateId origin' url' ↔
      Book.SharesId origin url origin' url') ∧
    ∀ book ∈ c.foundBooks sources keyword wanted,
      (∃ source ∈ sources, book.origin = source.url) ∧
      ∀ other ∈ c.foundBooks sources keyword wanted, book.id = other.id ↔
        Book.SharesId book.origin book.bookUrl other.origin other.bookUrl := by
  refine ⟨fun _ _ _ _ => Book.generateId_eq_iff, fun book hbook => ?_⟩
  obtain ⟨source, hsource, hnamed⟩ := exists_isNamed_of_mem_foundBooks hbook
  refine ⟨⟨source, hsource, hnamed.origin⟩, fun other hother => ?_⟩
  obtain ⟨_, -, hotherNamed⟩ := exists_isNamed_of_mem_foundBooks hother
  rw [hnamed.id, hotherNamed.id]
  exact Book.generateId_eq_iff

/-- A page that lists one book. -/
def shelfPage (url : String) : String := "[\x7b\"n\":\"A\",\"u\":\"" ++ url ++ "\"\x7d]"

/-- A source that is searched under the path, with the list rules of `shelfPage`. -/
def shelfSource (url path : String) : Source :=
  { url, searchUrl := some path,
    search := { bookList := "$[*]", name := "$.n", bookUrl := "$.u" } }

/-- Two sources, one with a URL that goes on with the beginning of the URL of the book of the
other. -/
def nestedSources : List Source :=
  [shelfSource "https://p.com/" "/a", shelfSource "https://p.com/https://s.com/" "/b"]

/-- A crawler of their pages. -/
def nestedCrawler : Crawler where
  settings := { script := ⟨200000, 4194304⟩ }
  fetcher := Archive.fetcher
    [⟨"https://p.com/a", 0, .ok ⟨"https://p.com/a", none,
        Utf8.bytes (shelfPage "https://s.com/https://t.com/1")⟩⟩,
      ⟨"https://p.com/b", 0, .ok ⟨"https://p.com/b", none,
        Utf8.bytes (shelfPage "https://t.com/1")⟩⟩]
  evaluator := fun _ _ => pure (.ok .empty)

theorem foundBooks_nestedSources : (nestedCrawler.foundBooks nestedSources "k" none).map
    (fun book => (book.origin, book.bookUrl)) =
      [("https://p.com/", "https://s.com/https://t.com/1"),
        ("https://p.com/https://s.com/", "https://t.com/1")] := by
  have hsorted : (nestedSources.filter Source.isSearchable).Pairwise fun a b =>
      comesBefore a b = true := by decide +kernel
  have htasks : searchTasks nestedSources =
      [⟨0, shelfSource "https://p.com/" "/a"⟩,
        ⟨1, shelfSource "https://p.com/https://s.com/" "/b"⟩] := by
    rw [searchTasks, List.mergeSort_of_pairwise hsorted]
    rfl
  rw [foundBooks, search, htasks]
  decide +kernel

/-- The two books that are found share an id. -/
theorem id_eq_iff_nestedSources :
    ∃ book ∈ nestedCrawler.foundBooks nestedSources "k" none,
      ∃ other ∈ nestedCrawler.foundBooks nestedSources "k" none,
        book.origin ≠ other.origin ∧ book.bookUrl ≠ other.bookUrl ∧ book.id = other.id := by
  have hbook : ("https://p.com/", "https://s.com/https://t.com/1") ∈
      (nestedCrawler.foundBooks nestedSources "k" none).map
        fun book => (book.origin, book.bookUrl) := by simp [foundBooks_nestedSources]
  have hother : ("https://p.com/https://s.com/", "https://t.com/1") ∈
      (nestedCrawler.foundBooks nestedSources "k" none).map
        fun book => (book.origin, book.bookUrl) := by simp [foundBooks_nestedSources]
  obtain ⟨book, hbook, hurls⟩ := List.mem_map.mp hbook
  obtain ⟨other, hother, hotherUrls⟩ := List.mem_map.mp hother
  obtain ⟨horigin, hurl⟩ := Prod.mk.inj hurls
  obtain ⟨hotherOrigin, hotherUrl⟩ := Prod.mk.inj hotherUrls
  have hiff := ((id_eq_iff nestedCrawler nestedSources "k" none).2 book hbook).2 other hother
  rw [horigin, hurl, hotherOrigin, hotherUrl] at hiff
  refine ⟨book, hbook, other, hother, ?_, ?_, ?_⟩
  · rw [horigin, hotherOrigin]
    decide
  · rw [hurl, hotherUrl]
    decide
  · exact hiff.mpr (.shifted "https://s.com/" (by decide) (by decide) (by decide))

end Folio.Crawler
