import Folio.Crawl.Archive
import Folio.Proofs.Crawl.Reversal
import Folio.Proofs.Crawl.Search
import Mathlib.Data.List.Forall2

/-!
# Folio.Proofs.Crawl.SearchReversal

Searches with reversed lists.  A search in which the lists of some sources are
reversed takes the same turns as the search without: its schedule stays the
counterpart of the other one (`Reversal.SameSchedule`), turn by turn and round
by round, and what it delivers at a time are the books that the other one
delivers then, those of the reversed sources in reverse order.
-/

namespace Folio.Crawl

/-- A search, and which of its sources have their lists reversed. -/
structure Reversal where
  crawler : Crawler
  keyword : String
  sources : List Source
  selected : Source → Bool
  unsigned : ∀ source ∈ sources, selected source = true → IsUnsigned source.search.bookList

namespace Reversal

variable (r : Reversal)

/-! ## Counterparts -/

/-- The source with its lists reversed, if it is selected. -/
def source (s : Source) : Source := if r.selected s then s.reversedSearch else s

/-- What a source gives with its lists reversed, if it is selected. -/
def batch (s : Source) (batch : SearchBatch) : SearchBatch :=
  if r.selected s then { batch with books := batch.books.reverse } else batch

/-- The batch of a source, and the one that it gives in the other search. -/
def SameBatch (batch other : SearchBatch) : Prop :=
  ∃ s ∈ r.sources, (r.crawler.searchSource s r.keyword).value = some batch ∧
    other = r.batch s batch

/-- Tasks for the same source. -/
structure SameTask (task other : Task) : Prop where
  mem : task.source ∈ r.sources
  eq : other = ⟨task.rank, r.source task.source⟩

/-- The same request for the same source. -/
structure SamePending (p other : Pending) : Prop where
  task : r.SameTask p.task other.task
  request : other.request = p.request
  reply : other.reply = p.reply
  due : other.due = p.due
  built : (r.crawler.searchRequest p.task.source r.keyword).value = .ok p.request
  replied : p.reply = r.crawler.fetcher p.request

/-- The same turn of the same source. -/
inductive SameTurn : Turn → Turn → Prop
  | asks {task other : Task} (h : r.SameTask task other) : SameTurn (.asks task) (.asks other)
  | admitted {task other : Task} (h : r.SameTask task other) :
      SameTurn (.admitted task) (.admitted other)
  | answered {p other : Pending} (h : r.SamePending p other) :
      SameTurn (.answered p) (.answered other)

/-- Schedules that have come equally far. -/
structure SameSchedule (s t : Schedule) : Prop where
  now : t.now = s.now
  permits : t.permits = s.permits
  ready : List.Forall₂ r.SameTurn s.ready t.ready
  waiting : List.Forall₂ r.SameTask s.waiting t.waiting
  underWay : List.Forall₂ r.SamePending s.underWay t.underWay
  finished : List.Forall₂ r.SameBatch s.finished t.finished

/-- Deliveries at the same time of what the same source gives. -/
structure SameDelivery (d other : Delivery) : Prop where
  time : other.time = d.time
  batch : r.SameBatch d.batch other.batch

/-- The same deliveries, and the same requests given up. -/
structure SameResult (result other : SearchResult) : Prop where
  deliveries : List.Forall₂ r.SameDelivery result.deliveries other.deliveries
  cancelled : other.cancelled = result.cancelled

/-! ## One source -/

variable {r}

section Selected

variable {s : Source} {found : SearchBatch}

/-- The rule of a selected source is reversed. -/
theorem source_of_selected (h : r.selected s = true) : r.source s = s.reversedSearch := if_pos h

/-- Any other source stays as it is. -/
theorem source_of_not_selected (h : ¬r.selected s = true) : r.source s = s := if_neg h

/-- The books of a selected source come in the reverse order. -/
theorem batch_of_selected (h : r.selected s = true) :
    r.batch s found = { found with books := found.books.reverse } := if_pos h

/-- Those of any other stay as they are. -/
theorem batch_of_not_selected (h : ¬r.selected s = true) : r.batch s found = found := if_neg h

end Selected

/-- Reversing a rule changes no request. -/
@[simp] theorem searchRequest_source (s : Source) (keyword : String) :
    r.crawler.searchRequest (r.source s) keyword = r.crawler.searchRequest s keyword := by
  rw [source]
  split
  · rfl
  · rfl

/-- Reversing a rule changes no report of a failure. -/
@[simp] theorem searchFailed_source (s : Source) (f : Failure) :
    Crawler.searchFailed (r.source s) f = Crawler.searchFailed s f := by
  rw [source]
  split
  · rfl
  · rfl

/-- What a source gives with its lists reversed. -/
theorem mirrors_searchReply {s : Source} (hs : s ∈ r.sources) (request : Request) (reply : Reply) :
    Traced.Mirrors (fun found other => other = found.map (r.batch s))
      (r.crawler.searchReply s request reply)
      (r.crawler.searchReply (r.source s) request reply) := by
  rw [Crawler.searchReply, Crawler.searchReply]
  refine .bind_same _ ?_
  cases (receive request reply).value with
  | error f =>
      simp only [searchFailed_source]
      exact .bind_same _ (.pure rfl)
  | ok page =>
      refine .asTask rfl ?_
      by_cases hselected : r.selected s = true
      · simp only [source_of_selected hselected]
        refine .bind (r.crawler.mirrors_listedBooks s (r.unsigned s hs hselected) page)
          fun hothers => .pure ?_
        generalize (r.crawler.listedBooks s s.search page).value = books at hothers ⊢
        rw [hothers, Option.map_some, batch_of_selected hselected]
        rfl
      · rw [source_of_not_selected hselected]
        refine .bind_same _ (.pure ?_)
        rw [Option.map_some, batch_of_not_selected hselected]

/-- Reversing books leaves some if there are any. -/
@[simp] theorem isEmpty_batch (s : Source) (batch : SearchBatch) :
    (r.batch s batch).books.isEmpty = batch.books.isEmpty := by
  by_cases hselected : r.selected s = true
  · rw [batch_of_selected hselected]
    exact List.isEmpty_reverse
  · rw [batch_of_not_selected hselected]

/-! ## Turns -/

variable {s t : Schedule}

/-- What is kept of what a source found. -/
theorem sameBatch_kept {source : Source} (hs : source ∈ r.sources) {found : Option SearchBatch}
    (hfound : ∀ batch ∈ found, (r.crawler.searchSource source r.keyword).value = some batch) :
    List.Forall₂ r.SameBatch (found.filter fun batch => !batch.books.isEmpty).toList
      ((found.map (r.batch source)).filter fun batch => !batch.books.isEmpty).toList := by
  cases found with
  | none => exact .nil
  | some batch =>
      rw [Option.map_some, Option.filter_some, Option.filter_some, isEmpty_batch]
      split
      · exact .cons ⟨source, hs, hfound batch rfl, rfl⟩ .nil
      · exact .nil

/-- A source finishes. -/
theorem SameSchedule.finish (h : r.SameSchedule s t) {source : Source} (hs : source ∈ r.sources)
    {found : Option SearchBatch}
    (hfound : ∀ batch ∈ found, (r.crawler.searchSource source r.keyword).value = some batch) :
    r.SameSchedule (s.finish found) (t.finish (found.map (r.batch source))) := by
  have hfinished := List.rel_append h.finished (sameBatch_kept hs hfound)
  obtain ⟨now, permits, ready, waiting, underWay, finished⟩ := s
  obtain ⟨now', permits', ready', waiting', underWay', finished'⟩ := t
  obtain ⟨rfl, rfl, hready, hwaiting, hunderWay, -⟩ := h
  cases hwaiting with
  | nil => exact ⟨rfl, rfl, hready, .nil, hunderWay, hfinished⟩
  | cons htask hrest =>
      have hready := List.rel_append hready (.cons (.admitted htask) .nil)
      exact ⟨rfl, rfl, hready, hrest, hunderWay, hfinished⟩

/-- Schedules with the same turns to take are the same. -/
theorem SameSchedule.withReady (h : r.SameSchedule s t) {ready other : List Turn}
    (hready : List.Forall₂ r.SameTurn ready other) :
    r.SameSchedule { s with ready } { t with ready := other } :=
  ⟨h.now, h.permits, hready, h.waiting, h.underWay, h.finished⟩

/-- A source with a permit sends its request. -/
theorem mirrors_sendRequest {task other : Task} (htask : r.SameTask task other)
    (h : r.SameSchedule s t) :
    Traced.Mirrors r.SameSchedule (r.crawler.sendRequest r.keyword task s)
      (r.crawler.sendRequest r.keyword other t) := by
  obtain rfl := htask.eq
  rw [Crawler.sendRequest, Crawler.sendRequest, searchRequest_source]
  refine .bind_same _ ?_
  cases hbuilt : (r.crawler.searchRequest task.source r.keyword).value with
  | error f =>
      simp only [searchFailed_source]
      have hnone : r.SameSchedule (s.finish none) (t.finish none) :=
        h.finish htask.mem fun batch hbatch => by contradiction
      exact .bind_same _ (.pure hnone)
  | ok request =>
      refine .bind_same _ ?_
      have hreply : (send r.crawler.fetcher request).value = r.crawler.fetcher request := rfl
      rw [hreply]
      by_cases hdelay : (r.crawler.fetcher request).delay = 0
      · rw [if_pos hdelay, if_pos hdelay]
        refine (mirrors_searchReply htask.mem request _).map fun hfound => ?_
        rw [hfound]
        exact h.finish htask.mem fun batch hbatch => (searchSource_ok hbuilt).trans hbatch
      · rw [if_neg hdelay, if_neg hdelay]
        have hpending : r.SamePending
            ⟨task, request, r.crawler.fetcher request, s.now + (r.crawler.fetcher request).delay⟩
            ⟨⟨task.rank, r.source task.source⟩, request, r.crawler.fetcher request,
              t.now + (r.crawler.fetcher request).delay⟩ :=
          ⟨htask, rfl, rfl, by rw [h.now], hbuilt, rfl⟩
        exact .pure ⟨h.now, h.permits, h.ready, h.waiting,
          List.rel_append h.underWay (.cons hpending .nil), h.finished⟩

/-- **One turn.** -/
theorem mirrors_takeTurn {turn other : Turn} (hturn : r.SameTurn turn other)
    (h : r.SameSchedule s t) :
    Traced.Mirrors r.SameSchedule (r.crawler.takeTurn r.keyword turn s)
      (r.crawler.takeTurn r.keyword other t) := by
  cases hturn with
  | asks htask =>
      rw [Crawler.takeTurn, Crawler.takeTurn, h.permits]
      cases s.permits with
      | zero =>
          exact .pure ⟨h.now, rfl, h.ready, List.rel_append h.waiting (.cons htask .nil),
            h.underWay, h.finished⟩
      | succ permits =>
          exact mirrors_sendRequest htask ⟨h.now, rfl, h.ready, h.waiting, h.underWay, h.finished⟩
  | admitted htask => exact mirrors_sendRequest htask h
  | @answered p other hp =>
      rw [Crawler.takeTurn, Crawler.takeTurn, hp.task.eq, hp.request, hp.reply]
      refine (mirrors_searchReply hp.task.mem p.request p.reply).map fun hfound => ?_
      rw [hfound]
      refine h.finish hp.task.mem fun batch hbatch => ?_
      rw [searchSource_ok hp.built, ← hp.replied]
      exact hbatch

/-- Turns, one after the other. -/
theorem mirrors_takeTurns (count : Nat) (h : r.SameSchedule s t) :
    Traced.Mirrors r.SameSchedule (r.crawler.takeTurns r.keyword count s)
      (r.crawler.takeTurns r.keyword count t) := by
  induction count generalizing s t with
  | zero => exact .pure h
  | succ count ih =>
      obtain ⟨now, permits, ready, waiting, underWay, finished⟩ := s
      obtain ⟨now', permits', ready', waiting', underWay', finished'⟩ := t
      have hready := h.ready
      cases hready with
      | nil => exact .pure h
      | cons hturn hrest =>
          exact (mirrors_takeTurn hturn (h.withReady hrest)).bind ih

/-! ## Rounds -/

/-- Related lists agree on what related items agree on. -/
theorem map_eq_map_of_forall₂ {α β : Type} {R : α → α → Prop} {f : α → β} {items others : List α}
    (h : List.Forall₂ R items others) (hf : ∀ a b, R a b → f b = f a) :
    others.map f = items.map f := by
  induction h with
  | nil => rfl
  | cons hab _ ih => rw [List.map_cons, List.map_cons, hf _ _ hab, ih]

/-- Related lists are both empty or both not. -/
theorem isEmpty_eq_of_forall₂ {α : Type} {R : α → α → Prop} {items others : List α}
    (h : List.Forall₂ R items others) : others.isEmpty = items.isEmpty := by
  cases h with
  | nil => rfl
  | cons hab hrest => rfl

/-- The next reply arrives at the same time. -/
theorem SameSchedule.nextArrival? (h : r.SameSchedule s t) : t.nextArrival? = s.nextArrival? := by
  rw [Schedule.nextArrival?, Schedule.nextArrival?,
    map_eq_map_of_forall₂ h.underWay fun _ _ hp => hp.due]

/-- The same schedules are the same at any later time. -/
theorem SameSchedule.advanceTo (h : r.SameSchedule s t) (time : Nat) :
    r.SameSchedule (s.advanceTo time) (t.advanceTo time) := by
  have hfilter (p : Nat → Bool) : List.Forall₂ r.SamePending
      (s.underWay.filter fun x => p x.due) (t.underWay.filter fun x => p x.due) :=
    List.rel_filter (fun _ _ hp => by simp only [hp.due]) h.underWay
  have harrived := hfilter fun due => due ≤ time
  have hlater := hfilter fun due => !decide (due ≤ time)
  have hturns := List.rel_map (P := r.SameTurn) (fun _ _ hp => .answered hp) harrived
  simp only [Schedule.advanceTo, List.partition_eq_filter_filter]
  exact ⟨rfl, h.permits, List.rel_append h.ready hturns, h.waiting, hlater, h.finished⟩

/-- The same time passes in the same schedules. -/
theorem mirrors_passTime (h : r.SameSchedule s t) :
    Traced.Mirrors r.SameSchedule (Crawler.passTime s) (Crawler.passTime t) := by
  rw [Crawler.passTime, Crawler.passTime, h.nextArrival?, h.now]
  have hready := h.ready
  generalize s.ready = ready at hready
  generalize t.ready = ready' at hready
  cases hready with
  | nil =>
      cases s.nextArrival? with
      | none => exact .pure h
      | some time => exact .bind_same _ (.pure (h.advanceTo time))
  | cons hturn hrest => exact .pure h

/-- The request whose reply a turn begins with. -/
def pending? : Turn → Option Pending
  | .answered p => some p
  | _ => none

/-- The same turns wait for the same replies. -/
theorem samePending_filterMap {ready other : List Turn} (h : List.Forall₂ r.SameTurn ready other) :
    List.Forall₂ r.SamePending (ready.filterMap pending?) (other.filterMap pending?) := by
  induction h with
  | nil => exact .nil
  | cons hturn _ ih =>
      cases hturn with
      | asks htask => exact ih
      | admitted htask => exact ih
      | answered hp => exact .cons hp ih

/-- The URLs of requests, by their place among the sources. -/
theorem map_mergeSort_rank (items : List Pending) :
    (items.mergeSort fun p q => p.task.rank ≤ q.task.rank).map (·.request.url.text) =
      ((items.map fun p => (p.task.rank, p.request.url.text)).mergeSort
        fun a b => a.1 ≤ b.1).map Prod.snd := by
  have hsort := List.map_mergeSort (r := fun p q : Pending => decide (p.task.rank ≤ q.task.rank))
    (s := fun a b : Nat × String => decide (a.1 ≤ b.1))
    (f := fun p => (p.task.rank, p.request.url.text)) (l := items) fun _ _ _ _ => rfl
  rw [← hsort, List.map_map]
  rfl

/-- The same requests are under way. -/
theorem SameSchedule.pending (h : r.SameSchedule s t) :
    t.pending.map (·.request.url.text) = s.pending.map (·.request.url.text) := by
  have hpending (s : Schedule) : s.pending = (s.ready.filterMap pending? ++ s.underWay).mergeSort
      fun p q => p.task.rank ≤ q.task.rank := rfl
  have hitems := List.rel_append (samePending_filterMap h.ready) h.underWay
  have hkeys := map_eq_map_of_forall₂ (f := fun p : Pending => (p.task.rank, p.request.url.text))
    hitems fun p q hp => by rw [hp.request, hp.task.eq]
  simp [hpending, map_mergeSort_rank, hkeys]

/-- What has been found is delivered at the same time. -/
theorem SameSchedule.deliver (h : r.SameSchedule s t) (wanted : Option Nat) :
    List.Forall₂ r.SameDelivery (s.deliver wanted).1 (t.deliver wanted).1 ∧
      r.SameSchedule (s.deliver wanted).2 (t.deliver wanted).2 := by
  obtain ⟨batches, others, hs, ht, hbatches⟩ : ∃ batches others,
      s.deliver wanted = (batches.map (⟨s.now, ·⟩),
        { s with finished := s.finished.drop batches.length }) ∧
      t.deliver wanted = (others.map (⟨t.now, ·⟩),
        { t with finished := t.finished.drop others.length }) ∧
      List.Forall₂ r.SameBatch batches others := by
    cases wanted with
    | none => exact ⟨_, _, rfl, rfl, h.finished⟩
    | some wanted => exact ⟨_, _, rfl, rfl, List.forall₂_take wanted h.finished⟩
  rw [hs, ht]
  constructor
  · exact List.rel_map (fun _ _ hbatch => ⟨h.now, hbatch⟩) hbatches
  · rw [← hbatches.length_eq]
    exact ⟨h.now, h.permits, h.ready, h.waiting, h.underWay, List.forall₂_drop _ h.finished⟩

/-- **The rounds of a search.** -/
theorem mirrors_searchRounds (rounds : Nat) (wanted : Option Nat) (h : r.SameSchedule s t) :
    Traced.Mirrors r.SameResult (r.crawler.searchRounds r.keyword rounds wanted s)
      (r.crawler.searchRounds r.keyword rounds wanted t) := by
  induction rounds generalizing wanted s t with
  | zero => exact .pure ⟨.nil, rfl⟩
  | succ rounds ih =>
      have hready := isEmpty_eq_of_forall₂ h.ready
      have hunderWay := isEmpty_eq_of_forall₂ h.underWay
      rw [Crawler.searchRounds, Crawler.searchRounds, h.pending, hready, hunderWay]
      split
      · exact .pure ⟨.nil, rfl⟩
      · split
        · exact .pure ⟨.nil, rfl⟩
        · refine (mirrors_passTime h).bind fun h => ?_
          refine (mirrors_takeTurns Crawler.turnsPerRound h).bind fun h => ?_
          obtain ⟨hdeliveries, h⟩ := h.deliver wanted
          dsimp only
          rw [← hdeliveries.length_eq]
          refine (ih _ h).bind fun hresult => .pure ?_
          exact ⟨List.rel_append hdeliveries hresult.deliveries, hresult.cancelled⟩

/-! ## A whole search -/

/-- Reversed lists do not change which sources take part, and in which order. -/
@[simp] theorem searchTasks_map (sources : List Source) :
    Crawler.searchTasks (sources.map r.source) =
      (Crawler.searchTasks sources).map fun task => ⟨task.rank, r.source task.source⟩ := by
  have hsearchable (s : Source) : (r.source s).isSearchable = s.isSearchable := by
    rw [source]
    split
    · rfl
    · rfl
  have horder (a b : Source) :
      Crawler.comesBefore (r.source a) (r.source b) = Crawler.comesBefore a b := by
    rw [source, source]
    split <;> split <;> rfl
  have hfilter : Source.isSearchable ∘ r.source = Source.isSearchable := funext hsearchable
  have hsort := List.map_mergeSort (r := Crawler.comesBefore) (s := Crawler.comesBefore)
    (f := r.source) (l := sources.filter Source.isSearchable) fun a _ b _ => (horder a b).symm
  rw [Crawler.searchTasks, Crawler.searchTasks, List.filter_map, hfilter, ← hsort]
  exact List.ext_getElem (by simp) fun n _ _ => by simp

/-- **A search with reversed lists.**  It takes the same turns and makes the same
requests, and delivers at the same times what the other one delivers, with the
books of the selected sources in reverse order. -/
theorem mirrors_search (wanted : Option Nat) :
    Traced.Mirrors r.SameResult (r.crawler.search r.sources r.keyword wanted)
      (r.crawler.search (r.sources.map r.source) r.keyword wanted) := by
  have htasks : List.Forall₂ r.SameTask (Crawler.searchTasks r.sources)
      (Crawler.searchTasks (r.sources.map r.source)) := by
    rw [searchTasks_map, List.forall₂_map_right_iff, List.forall₂_same]
    intro task htask
    have hmem : task.source ∈ (Crawler.searchTasks r.sources).map (·.source) :=
      List.mem_map_of_mem htask
    have hsearched := (searchTasks_perm r.sources).mem_iff.mp hmem
    exact ⟨(List.mem_filter.mp hsearched).1, rfl⟩
  rw [Crawler.search, Crawler.search, ← htasks.length_eq]
  refine mirrors_searchRounds _ wanted ⟨rfl, rfl, ?_, .nil, .nil, .nil⟩
  exact List.rel_map (fun _ _ htask => .asks htask) htasks

end Reversal

end Folio.Crawl

namespace Folio.Crawler

open Folio.Text Folio.Crawl

/-- **Reversed lists.**  Let a list rule begin with no sign.  With a hyphen in front of
it the same happens: the same pages are loaded in the same order, and the same
failures are reported.  The table of contents gives the chapters of all its
pages in reverse order, numbered anew.  An explore page gives its books in
reverse order, where the rule is the one that its list is taken from: that of
the source for explore pages, or that for searches if it has none.  A search
gives the books of each source whose rule it is in reverse order, at the same
time, and those of the others as they are. -/
theorem reversed_lists (c : Crawler) :
    (∀ source book, IsUnsigned source.toc.chapterList →
      Traced.Mirrors (fun result other => other = result.map fun chapters =>
          numbered chapters.reverse)
        (c.chapterList source book) (c.chapterList source.reversedTable book)) ∧
    (∀ source template page, IsUnsigned source.exploreRules.bookList →
      Traced.Mirrors (fun result other => other = result.map List.reverse)
        (c.explore source template page) (c.explore source.reversedExplore template page)) ∧
    ∀ (r : Reversal) (wanted : Option Nat), r.crawler = c →
      Traced.Mirrors r.SameResult (c.search r.sources r.keyword wanted)
        (c.search (r.sources.map r.source) r.keyword wanted) := by
  refine ⟨c.mirrors_chapterList, c.mirrors_explore, ?_⟩
  rintro r wanted rfl
  exact Reversal.mirrors_search wanted

/-- The first page of a table, with a chapter and a link to the second. -/
def firstTablePage : String := "\x7b\"l\":[\x7b\"t\":\"One\",\"u\":\"/a\"\x7d],\"n\":\"/2\"\x7d"

/-- The second page, with another chapter. -/
def secondTablePage : String := "\x7b\"l\":[\x7b\"t\":\"Two\",\"u\":\"/b\"\x7d]\x7d"

/-- A crawler of a site with a table of two pages. -/
def twoPageCrawler : Crawler where
  settings := { script := ⟨200000, 4194304⟩ }
  fetcher := Archive.fetcher
    [⟨"https://s.com/1", 0, .ok ⟨"https://s.com/1", none, Utf8.bytes firstTablePage⟩⟩,
      ⟨"https://s.com/2", 0, .ok ⟨"https://s.com/2", none, Utf8.bytes secondTablePage⟩⟩]
  evaluator := fun _ _ => pure (.ok .empty)

/-- The source of that site, whose pages can be listed as books, too. -/
def twoPageSource : Source :=
  { url := "https://s.com", searchUrl := some "/1",
    search := { bookList := "$.l[*]", name := "$.t", bookUrl := "$.u" },
    toc := { chapterList := "$.l[*]", chapterName := "$.t", chapterUrl := "$.u",
             nextTocUrl := "$.n" } }

/-- The search of that source, with its list reversed. -/
def twoPageReversal : Reversal where
  crawler := twoPageCrawler
  keyword := "k"
  sources := [twoPageSource]
  selected := fun _ => true
  unsigned := by decide

/-- The order is reversed across the pages of the table. -/
theorem reversed_lists_twoPages :
    IsUnsigned twoPageSource.toc.chapterList ∧ IsUnsigned twoPageSource.exploreRules.bookList ∧
      (twoPageCrawler.chapterList twoPageSource.reversedTable
        { bookUrl := "/1" }).value.toOption.map (List.map fun x => (x.title, x.index)) =
          some [("Two", 0), ("One", 1)] ∧
      (twoPageCrawler.explore twoPageSource.reversedExplore "/1" 1).value.toOption.map
        (List.map Book.name) = some ["One"] ∧
      (twoPageCrawler.search [twoPageSource.reversedSearch] "k" none).events =
        (twoPageCrawler.search [twoPageSource] "k" none).events := by
  obtain ⟨htable, hexplore, hsearch⟩ := reversed_lists twoPageCrawler
  have hchapters : IsUnsigned twoPageSource.toc.chapterList := by decide
  have hbooks : IsUnsigned twoPageSource.exploreRules.bookList := by decide
  refine ⟨hchapters, hbooks, ?_, ?_, (hsearch twoPageReversal none rfl).events⟩
  · rw [(htable twoPageSource _ hchapters).value]
    decide +kernel
  · rw [(hexplore twoPageSource "/1" 1 hbooks).value]
    decide +kernel

/-- The source with a hyphen as the list rule of its explore pages, which have
none. -/
def hyphenSource : Source :=
  { twoPageSource with explore := twoPageSource.explore.reversed }

/-- Explore pages without a list rule take that of searches, and a hyphen alone is a
list rule, by which nothing is found. -/
theorem not_reversed_blankExplore :
    IsUnsigned twoPageSource.explore.bookList ∧
      hyphenSource.explore.bookList = "-" ++ twoPageSource.explore.bookList ∧
      (twoPageCrawler.explore hyphenSource "/1" 1).value ≠
        (twoPageCrawler.explore twoPageSource "/1" 1).value.map List.reverse := by
  refine ⟨by decide, rfl, fun h => ?_⟩
  have hnames := congrArg (fun result => result.toOption.map (List.map Book.name)) h
  have hsearch : ((twoPageCrawler.explore twoPageSource "/1" 1).value.map List.reverse).toOption.map
      (List.map Book.name) = some ["One"] := by decide +kernel
  have hnone : (twoPageCrawler.explore hyphenSource "/1" 1).value.toOption.map
      (List.map Book.name) = some [] := by decide +kernel
  rw [hsearch, hnone] at hnames
  contradiction

end Folio.Crawler
