import Folio.Crawl.BookInfo
import Folio.Crawl.ChapterList
import Folio.Crawl.ChapterText
import Folio.Proofs.Request.Template
import Folio.Proofs.Rule.Evaluation

/-!
# Folio.Proofs.Crawl.Script

The scripts that a crawl runs.  Pages, redirects and links only ever become the
subjects of rules, the input of scripts and the targets of requests, none of
which is read for scripts; so that a crawl runs the scripts of the rules of its
source and nothing else, whatever pages it is given.
-/

namespace Folio

open Folio.Text Folio.Script

/-! ## Rules of a source -/

/-- The rules as they are written. -/
def BookInfoRule.texts (r : BookInfoRule) : List String :=
  [r.init, r.name, r.author, r.intro, r.kind, r.lastChapter, r.coverUrl, r.tocUrl]

/-- The rules as they are written. -/
def TocRule.texts (r : TocRule) : List String :=
  [r.chapterList, r.chapterName, r.chapterUrl, r.isVolume, r.nextTocUrl]

/-- The rules as they are written. -/
def ContentRule.texts (r : ContentRule) : List String := [r.content, r.nextContentUrl]

/-- The script is a piece of one of the texts, without the blanks around it. -/
def IsPartOfOne (texts : List String) (script : String) : Prop :=
  ∃ text ∈ texts, IsPartOf text script

/-- A script of a piece of a text is one of the text. -/
theorem isPartOf_of_isInfix {part text script : String} (h : IsPartOf part script)
    (hpart : part.toList <:+: text.toList) : IsPartOf text script := by
  obtain ⟨piece, hpiece, heq⟩ := h
  exact ⟨piece, hpiece.trans hpart, heq⟩

theorem toList_trimmed_isInfix (s : String) : (trimmed s).toList <:+: s.toList := by
  rw [trimmed, String.toList_ofList]
  exact trim_isInfix s.toList

/-- The scripts of one text are among those of several. -/
theorem Traced.RunsOnly.of_mem {α : Type} {e : Evaluator} {t : Traced α} {texts : List String}
    {text : String} (h : t.RunsOnly e (IsPartOf text)) (hmem : text ∈ texts) :
    t.RunsOnly e (IsPartOfOne texts) :=
  h.mono fun _ hpart => ⟨text, hmem, hpart⟩

namespace Crawler

open Folio.Crawl

section NoScripts

variable {e : Evaluator} {P : String → Prop}

/-! ## Loading -/

theorem runsOnly_wait (milliseconds : Nat) : (wait milliseconds).RunsOnly e P := by
  rw [wait]
  split
  · exact .pure ()
  · exact .emit rfl

theorem runsOnly_reportUnknown (label : String) (charset : Option Charset) :
    (Page.reportUnknown label charset).RunsOnly e P := by
  cases charset with
  | none => exact (Traced.RunsOnly.emit rfl).bind (.pure none)
  | some charset => exact .pure (some charset)

/-- Decoding runs no script. -/
theorem runsOnly_decode (bytes : List UInt8) (declared : Option String) :
    (Page.decode bytes declared).RunsOnly e P := by
  have hdeclared : (Page.declaredEncoding declared).RunsOnly e P := by
    cases declared with
    | none => exact .pure _
    | some label =>
        rw [Page.declaredEncoding]
        exact runsOnly_reportUnknown label _
  rw [Page.decode]
  split
  · exact .pure _
  · refine hdeclared.bind ?_
    split
    · exact .pure _
    · dsimp only
      split
      · exact (Traced.RunsOnly.emit rfl).bind (.pure _)
      · exact .pure _

/-- Loading a page runs no script. -/
theorem runsOnly_load (c : Crawler) (request : Except Request.Failure Request) :
    (c.load request).RunsOnly e P := by
  cases request with
  | error f => exact .pure _
  | ok request =>
      have hsend : (send c.fetcher request).RunsOnly e P :=
        (Traced.RunsOnly.emit rfl).bind (.pure _)
      rw [load]
      refine hsend.bind ((runsOnly_wait _).bind ?_)
      rw [receive]
      split
      · exact .pure _
      · exact ((runsOnly_decode _ _).bind (.pure _)).bind (.pure _)

/-- A link is followed without a script. -/
theorem runsOnly_loadLink (c : Crawler) (source : Source) (link : String) :
    (c.loadLink source link).RunsOnly e P :=
  (Request.runsOnly_link _ _ _).bind (runsOnly_load c _)

/-! ## Typesetting -/

/-- Typesetting runs no script. -/
theorem runsOnly_typeset (body : String) (rules : List String) :
    (Typeset.typeset body rules).RunsOnly e P := by
  have hreplace (body rule : String) : (Typeset.replace body rule).RunsOnly e P := by
    rw [Typeset.replace]
    dsimp only
    split
    · exact .pure _
    · split
      · exact .pure _
      · exact (Traced.RunsOnly.emit rfl).bind (.pure _)
  have heach (body : String) : (Typeset.replaceEach body rules).RunsOnly e P := by
    induction rules generalizing body with
    | nil => exact .pure body
    | cons rule rules ih => exact (hreplace body rule).bind (ih _)
  exact (heach body).bind (.pure _)

end NoScripts

/-! ## Fields -/

section Fields

variable (c : Crawler) (base : String) (s : Rule.Subject) (rule : String)

/-- A field runs the scripts of its rule. -/
theorem runsOnly_field : (c.field base s rule).RunsOnly c.evaluator (IsPartOf rule) := by
  rw [field]
  split
  · exact .pure ""
  · exact (Rule.runsOnly_text c.evaluator base s rule).map

/-- So does the field of a link. -/
theorem runsOnly_urlField : (c.urlField base s rule).RunsOnly c.evaluator (IsPartOf rule) := by
  rw [urlField]
  split
  · exact .pure ""
  · exact Rule.runsOnly_url c.evaluator base s rule

end Fields

/-! ## Details of a book -/

theorem runsOnly_infoPart (c : Crawler) (page : PageText) (rule : String) :
    (c.infoPart page rule).RunsOnly c.evaluator (IsPartOf rule) := by
  rw [infoPart]
  split
  · exact .pure _
  · exact (Rule.runsOnly_elements c.evaluator _ _ rule).bind (.pure _)

theorem runsOnly_withDetails (c : Crawler) (source : Source) (book : Book) (page : PageText) :
    (c.withDetails source book page).RunsOnly c.evaluator (IsPartOfOne source.bookInfo.texts) := by
  have hfield (s : Rule.Subject) {rule : String} (h : rule ∈ source.bookInfo.texts) :
      (c.field page.url s rule).RunsOnly c.evaluator (IsPartOfOne source.bookInfo.texts) :=
    (runsOnly_field c page.url s rule).of_mem h
  have hurl (s : Rule.Subject) {rule : String} (h : rule ∈ source.bookInfo.texts) :
      (c.urlField page.url s rule).RunsOnly c.evaluator (IsPartOfOne source.bookInfo.texts) :=
    (runsOnly_urlField c page.url s rule).of_mem h
  rw [withDetails]
  refine ((runsOnly_infoPart c page _).of_mem (by simp [BookInfoRule.texts])).bind ?_
  refine (hfield _ (by simp [BookInfoRule.texts])).bind ?_
  refine (hfield _ (by simp [BookInfoRule.texts])).bind ?_
  refine (hfield _ (by simp [BookInfoRule.texts])).bind ?_
  refine (hfield _ (by simp [BookInfoRule.texts])).bind ?_
  refine (hfield _ (by simp [BookInfoRule.texts])).bind ?_
  refine (hurl _ (by simp [BookInfoRule.texts])).bind ?_
  exact (hurl _ (by simp [BookInfoRule.texts])).bind (.pure _)

/-- Reading a book runs the scripts of the rules for books. -/
theorem runsOnly_bookInfo (c : Crawler) (source : Source) (book : Book) :
    (c.bookInfo source book).RunsOnly c.evaluator (IsPartOfOne source.bookInfo.texts) := by
  rw [bookInfo]
  refine (runsOnly_loadLink c source _).bind ?_
  split
  · exact .pure _
  · exact (runsOnly_withDetails c source book _).bind (.pure _)

/-! ## Tables of contents -/

theorem runsOnly_listedChapter? (c : Crawler) (rules : TocRule) (base : String)
    (item : Rule.Subject) :
    (c.listedChapter? rules base item).RunsOnly c.evaluator (IsPartOfOne rules.texts) := by
  rw [listedChapter?]
  refine ((runsOnly_field c base item _).of_mem (by simp [TocRule.texts])).bind ?_
  refine ((runsOnly_urlField c base item _).of_mem (by simp [TocRule.texts])).bind ?_
  refine ((runsOnly_field c base item _).of_mem (by simp [TocRule.texts])).bind ?_
  dsimp only
  split
  · exact .pure _
  · exact .pure _

/-- The rule for a list without the mark of its order is a piece of the rule. -/
theorem listOrder_isInfix (rule : String) :
    (ListOrder.read rule).2.toList <:+: rule.toList := by
  have htrim := trim_isInfix rule.toList
  rw [ListOrder.read]
  split
  · next rest heq =>
    rw [heq] at htrim
    rw [String.toList_ofList]
    exact (List.suffix_cons _ rest).isInfix.trans htrim
  · next rest heq =>
    rw [heq] at htrim
    rw [String.toList_ofList]
    exact (List.suffix_cons _ rest).isInfix.trans htrim
  · rw [String.toList_ofList]
    exact htrim

/-- Reading a table of contents runs the scripts of its rules. -/
theorem runsOnly_listedChapters (c : Crawler) (source : Source) (page : PageText) :
    (c.listedChapters source (ListOrder.read source.toc.chapterList).2 page).RunsOnly c.evaluator
      (IsPartOfOne source.toc.texts) := by
  rw [listedChapters]
  have helements := (Rule.runsOnly_elements c.evaluator page.url page.subject
    (ListOrder.read source.toc.chapterList).2).mono fun script hpart =>
      isPartOf_of_isInfix hpart (listOrder_isInfix _)
  refine (helements.of_mem (by simp [TocRule.texts])).bind ?_
  exact (Traced.RunsOnly.forEach (runsOnly_listedChapter? c source.toc page.url) _).bind (.pure _)

theorem runsOnly_furtherLinks (c : Crawler) (source : Source) (page : PageText) :
    (c.furtherLinks source page).RunsOnly c.evaluator (IsPartOfOne source.toc.texts) := by
  rw [furtherLinks]
  split
  · exact .pure []
  · refine Traced.RunsOnly.bind ?_ (.pure _)
    exact (Rule.runsOnly_texts c.evaluator _ _ _).of_mem (by simp [TocRule.texts])

/-- So does every further page of it, by induction on the pages that may be visited. -/
theorem runsOnly_visitTable (c : Crawler) (source : Source) (remaining : Nat)
    (queue visited : List String) :
    (c.visitTable source (ListOrder.read source.toc.chapterList).2 remaining queue
      visited).RunsOnly c.evaluator (IsPartOfOne source.toc.texts) := by
  induction remaining generalizing queue visited with
  | zero =>
      rw [visitTable]
      split
      · exact .pure []
      · exact (Traced.RunsOnly.emit rfl).bind (.pure [])
  | succ remaining ih =>
      rw [visitTable]
      split
      · exact .pure []
      · have hpause : (c.pauseAfter visited).RunsOnly c.evaluator
            (IsPartOfOne source.toc.texts) := by
          rw [pauseAfter]
          split
          · exact .pure ()
          · exact runsOnly_wait _
        refine hpause.bind ((runsOnly_loadLink c source _).bind ?_)
        split
        · exact .pure _
        · refine (runsOnly_listedChapters c source _).bind ?_
          exact (runsOnly_furtherLinks c source _).bind ((ih _ _).bind (.pure _))

/-- So does the list of chapters. -/
theorem runsOnly_chapterList (c : Crawler) (source : Source) (book : Book) :
    (c.chapterList source book).RunsOnly c.evaluator (IsPartOfOne source.toc.texts) := by
  rw [chapterList]
  refine (runsOnly_visitTable c source _ _ _).bind ?_
  dsimp only
  split
  · exact .pure _
  · split
    · exact .pure _
    · exact (Traced.RunsOnly.emit rfl).bind (.pure _)

/-! ## Chapters -/

/-- Reading a page of a chapter runs the scripts of the rules for chapters. -/
theorem runsOnly_readPage (c : Crawler) (source : Source) (nextChapter : Option String)
    (page : PageText) :
    (c.readPage (chapterRule source nextChapter) page).RunsOnly c.evaluator
      (IsPartOfOne source.content.texts) := by
  have hbody := Rule.runsOnly_markup_withDefaultLeaf c.evaluator page.url page.subject
    source.content.content
  have hnext := (runsOnly_urlField c page.url page.subject
    (trimmed source.content.nextContentUrl)).mono fun script hpart =>
      isPartOf_of_isInfix hpart (toList_trimmed_isInfix _)
  rw [readPage]
  refine (hbody.of_mem (by simp [ContentRule.texts])).bind ?_
  exact (hnext.of_mem (by simp [ContentRule.texts])).bind (.pure _)

/-- So does every further page of it. -/
theorem runsOnly_visitChapter (c : Crawler) (source : Source) (nextChapter : Option String)
    (remaining : Nat) (link : String) (visited : List String) :
    (c.visitChapter source (chapterRule source nextChapter) remaining link visited).RunsOnly
      c.evaluator (IsPartOfOne source.content.texts) := by
  induction remaining generalizing link visited with
  | zero => exact (Traced.RunsOnly.emit rfl).bind (.pure [])
  | succ remaining ih =>
      rw [visitChapter]
      refine (runsOnly_loadLink c source link).bind ?_
      split
      · exact .pure _
      · refine (runsOnly_readPage c source nextChapter _).bind ?_
        dsimp only
        split
        · exact (Traced.RunsOnly.pure []).bind (.pure _)
        · split
          · exact (Traced.RunsOnly.emit rfl).bind ((Traced.RunsOnly.pure []).bind (.pure _))
          · exact (runsOnly_wait _).bind ((ih _ _).bind (.pure _))

/-- So does the text of a chapter. -/
theorem runsOnly_content (c : Crawler) (source : Source) (chapterUrl : String)
    (nextChapter : Option String) :
    (c.content source chapterUrl nextChapter).RunsOnly c.evaluator
      (IsPartOfOne source.content.texts) := by
  rw [content]
  refine (runsOnly_visitChapter c source nextChapter _ _ _).bind ?_
  dsimp only
  split
  · exact (Traced.RunsOnly.emit rfl).bind ((runsOnly_typeset _ _).bind (.pure _))
  · exact (runsOnly_typeset _ _).bind (.pure _)

/-- **Scripts of a crawl.**  Whatever pages a crawl is given and wherever they
lead, it hands nothing to the evaluator but pieces of the rules of its source:
for a book those of its page, for a table of contents those of tables, and for a
chapter those of chapters. -/
theorem runsOnly_crawl (c : Crawler) (source : Source) (book : Book) (chapterUrl : String)
    (nextChapter : Option String) :
    (c.bookInfo source book).RunsOnly c.evaluator (IsPartOfOne source.bookInfo.texts) ∧
    (c.chapterList source book).RunsOnly c.evaluator (IsPartOfOne source.toc.texts) ∧
    (c.content source chapterUrl nextChapter).RunsOnly c.evaluator
      (IsPartOfOne source.content.texts) :=
  ⟨runsOnly_bookInfo c source book, runsOnly_chapterList c source book,
    runsOnly_content c source chapterUrl nextChapter⟩

end Crawler

end Folio
