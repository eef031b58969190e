import Folio.Crawl.Search
import Folio.Proofs.Crawl.ChapterList
import Folio.Proofs.Rule.Evaluation

/-!
# Folio.Proofs.Crawl.Reversal

List rules with a hyphen in front.  The hyphen is taken off before the rule is
applied, so that the same items are selected on the same pages, and only what
is made of them in the end is reversed: the books of a page
(`mirrors_listedBooks`, `mirrors_explore`), and the chapters of all pages of a
table (`mirrors_chapterList`).
-/

namespace Folio

open Folio.Text Folio.Crawl

/-! ## List rules -/

/-- The list rule begins with no sign. -/
def IsUnsigned (rule : String) : Prop := ∀ c ∈ (trim rule.toList).head?, c ≠ '-' ∧ c ≠ '+'

instance (rule : String) : Decidable (IsUnsigned rule) :=
  inferInstanceAs (Decidable (∀ c ∈ _, _))

/-- The list rule with the sign in front that reverses the list. -/
def reversing (rule : String) : String := "-" ++ rule

namespace Crawl.ListOrder

theorem read_of_isUnsigned {rule : String} (h : IsUnsigned rule) :
    read rule = (.forward, String.ofList (trim rule.toList)) := by
  rw [IsUnsigned] at h
  rw [read]
  split
  · next rest hrule =>
    rw [hrule] at h
    exact absurd rfl (h '-' rfl).1
  · next rest hrule =>
    rw [hrule] at h
    exact absurd rfl (h '+' rfl).2
  · rfl

@[simp] theorem read_reversing (rule : String) :
    read (reversing rule) = (.backward, String.ofList (trimEnd rule.toList)) := by
  have htrim : trim (reversing rule).toList = '-' :: trimEnd rule.toList := by
    have hmark : trim ([] ++ (['-'] ++ rule.toList)) = [] ++ (['-'] ++ trimEnd rule.toList) :=
      trim_append_mark (by decide) (by decide) (by decide) [] _
    rw [reversing, String.toList_append]
    exact hmark
  rw [read, htrim]
  rfl

/-- A hyphen in front reverses the list and leaves the rule as it is. -/
theorem exists_read {rule : String} (h : IsUnsigned rule) :
    ∃ forward backward, read rule = (.forward, forward) ∧
      read (reversing rule) = (.backward, backward) ∧
      trim backward.toList = trim forward.toList := by
  refine ⟨_, _, read_of_isUnsigned h, read_reversing rule, ?_⟩
  simp

end Crawl.ListOrder

/-! ## Sources -/

/-- Rules for a list of books that give it reversed. -/
def ListRule.reversed (rules : ListRule) : ListRule :=
  { rules with bookList := reversing rules.bookList }

namespace Source

/-- The source with its tables of contents reversed. -/
def reversedTable (s : Source) : Source :=
  { s with toc := { s.toc with chapterList := reversing s.toc.chapterList } }

/-- The source with the lists of its searches reversed. -/
def reversedSearch (s : Source) : Source := { s with search := s.search.reversed }

/-- The source with the lists of its explore pages reversed. -/
def reversedExplore (s : Source) : Source :=
  if isBlankText s.explore.bookList then s.reversedSearch
  else { s with explore := s.explore.reversed }

@[simp] theorem isBlankText_reversing (rule : String) : isBlankText (reversing rule) = false := by
  rw [isBlankText, reversing, String.toList_append]
  rfl

@[simp] theorem exploreRules_reversedExplore (s : Source) :
    s.reversedExplore.exploreRules = s.exploreRules.reversed := by
  rw [reversedExplore, exploreRules, exploreRules]
  by_cases h : isBlankText s.explore.bookList = true
  · rw [if_pos h, if_pos h]
    exact if_pos h
  · rw [if_neg h, if_neg h]
    exact if_neg (by simp [ListRule.reversed, isBlankText_reversing])

end Source

namespace Crawler

variable (c : Crawler)

/-! ## Books -/

/-- The books of a page, reversed. -/
theorem mirrors_listedBooks (source : Source) {rules : ListRule} (h : IsUnsigned rules.bookList)
    (page : PageText) :
    Traced.Mirrors (fun books others => others = books.reverse)
      (c.listedBooks source rules page) (c.listedBooks source rules.reversed page) := by
  obtain ⟨forward, backward, hforward, hbackward, htrim⟩ := ListOrder.exists_read h
  have hbook : c.listedBook? source rules.reversed = c.listedBook? source rules := rfl
  rw [listedBooks, listedBooks, ListRule.reversed, hforward, hbackward]
  dsimp only
  rw [Rule.elements_congr _ _ _ htrim]
  exact .bind_same _ (.bind_same _ (.pure rfl))

/-- An explore page whose list is reversed. -/
theorem mirrors_explore (source : Source) (template : String) (page : Nat)
    (h : IsUnsigned source.exploreRules.bookList) :
    Traced.Mirrors (fun result other => other = result.map List.reverse)
      (c.explore source template page) (c.explore source.reversedExplore template page) := by
  have hload : c.loadTemplate source.reversedExplore ⟨none, page⟩ template =
      c.loadTemplate source ⟨none, page⟩ template := by
    rw [Source.reversedExplore]
    split
    · rfl
    · rfl
  have hbooks (loaded : PageText) :
      c.listedBooks source.reversedExplore source.exploreRules.reversed loaded =
        c.listedBooks source source.exploreRules.reversed loaded := by
    rw [Source.reversedExplore]
    split
    · rfl
    · rfl
  rw [explore, explore, hload, Source.exploreRules_reversedExplore]
  refine .bind_same _ ?_
  cases (c.loadTemplate source ⟨none, page⟩ template).value with
  | error f => exact .pure rfl
  | ok loaded =>
      simp only [hbooks]
      refine .bind (c.mirrors_listedBooks source h loaded) fun hothers => .pure ?_
      rw [hothers]
      rfl

/-! ## Tables of contents -/

theorem listedChapters_congr (source : Source) {rule other : String}
    (h : trim rule.toList = trim other.toList) :
    c.listedChapters source rule = c.listedChapters source other := by
  funext page
  rw [listedChapters, listedChapters, Rule.elements_congr _ _ _ h]

/-- The visits of a table are the same, whatever the order of its chapters is. -/
theorem visitTable_reversedTable (source : Source) {rule other : String}
    (h : trim rule.toList = trim other.toList) (n : Nat) (queue visited : List String) :
    c.visitTable source.reversedTable rule n queue visited =
      c.visitTable source other n queue visited := by
  have hload : c.loadLink source.reversedTable = c.loadLink source := rfl
  have hlinks : c.furtherLinks source.reversedTable = c.furtherLinks source := rfl
  have hchapters : c.listedChapters source.reversedTable rule = c.listedChapters source other := by
    rw [← c.listedChapters_congr source h]
    rfl
  induction n generalizing queue visited with
  | zero => rfl
  | succ n ih =>
      rw [visitTable, visitTable]
      simp only [hload, hlinks, hchapters, ih]

@[simp] theorem numbered_reverse_numbered (chapters : List Chapter) :
    numbered (numbered chapters).reverse = numbered chapters.reverse := by
  refine List.ext_getElem (by simp [numbered]) fun n _ _ => ?_
  simp [numbered]

/-- A table of contents whose chapters are reversed. -/
theorem mirrors_chapterList (source : Source) (book : Book)
    (h : IsUnsigned source.toc.chapterList) :
    Traced.Mirrors (fun result other => other = result.map fun chapters =>
        numbered chapters.reverse)
      (c.chapterList source book) (c.chapterList source.reversedTable book) := by
  obtain ⟨forward, backward, hforward, hbackward, htrim⟩ := ListOrder.exists_read h
  rw [chapterList, chapterList, Source.reversedTable, hforward, hbackward]
  dsimp only
  rw [← Source.reversedTable, c.visitTable_reversedTable source htrim]
  refine .bind_same _ ?_
  generalize (c.visitTable source forward c.settings.maxPages
    [absoluteUrl source.url book.contentsUrl] []).value = visits
  have hnumbered (chapters : List Chapter) : numbered (ListOrder.backward.apply chapters) =
      numbered (numbered (ListOrder.forward.apply chapters)).reverse :=
    (numbered_reverse_numbered chapters).symm
  rw [hnumbered]
  cases Visit.lastFailure? visits with
  | none => exact .pure rfl
  | some last =>
      by_cases hlength : visits.length = 1
      · simp only [if_pos hlength]
        exact .pure rfl
      · simp only [if_neg hlength]
        exact .bind_same _ (.pure rfl)

end Crawler

end Folio
