import Folio.Proofs.Rule.DefaultLeaf
import Folio.Proofs.Rule.JsonSyntax

/-!
# Folio.Proofs.Rule.JsonItems

JSON in two stages.  To select the items of an array by one path and to extract
from every item by another gives the texts that one path gives which goes
through all items (`texts_allItems`), though in two stages every item is
written as text, read again and taken for JSON again.

Only script marks can tell the two apart: braces that the first path opens and
the second closes make a script of what stands between them in the joined path,
and of nothing in the two alone (`not_texts_allItems_braces`).
-/

namespace Folio.Rule

open Folio.Text Folio.Script

/-! ## Rules that are one path -/

/-- The text has neither blanks around it nor the mark of an affix, of an alternative or of
a script. -/
structure IsUnmarked (text : String) : Prop where
  trimmed : trim text.toList = text.toList
  noAffix : ¬affixMark <:+: text.toList
  noAlternative : ¬alternativeMark <:+: text.toList
  noScript : Envelope.find? true text.toList = none

/-- An alternative that is a path and no more. -/
def pathAlternative (dialect : Dialect) (path : String) : Alternative :=
  ⟨dialect, false, path, none⟩

/-- A path from the root is read by its own marker or by structure. -/
theorem classify_of_root {body : List Char} (h : ['$'] <+: body) :
    ∃ dialect, (dialect = .structural ∨ dialect = .json) ∧
      classify body = (dialect, false, body) := by
  obtain ⟨rest, rfl⟩ := h
  have hmarker : ¬['@'] <+: '$' :: rest := by simp
  have hpath : startsWith ['/'] ('$' :: rest) = false ∧
      startsWith ['.', '/'] ('$' :: rest) = false := ⟨rfl, rfl⟩
  rw [List.singleton_append, classify_of_not_marked hmarker, hpath.1, hpath.2]
  split
  · contradiction
  · split
    · exact ⟨.json, Or.inr rfl, rfl⟩
    · exact ⟨.structural, Or.inl rfl, rfl⟩

/-- An unmarked path is read as one alternative. -/
theorem IsUnmarked.exists_read {path : String} (h : IsUnmarked path)
    (hroot : ['$'] <+: path.toList) :
    ∃ dialect, (dialect = .structural ∨ dialect = .json) ∧
      Expr.read path = .alternatives [pathAlternative dialect path] := by
  obtain ⟨dialect, hdialect, hclassify⟩ := classify_of_root hroot
  have huncut : splitTopLevel alternativeMark false path.toList = [path.toList] :=
    isPiece_of_not_isInfix (by decide) h.noAlternative
  refine ⟨dialect, hdialect, ?_⟩
  rw [read_of_none h.noScript, readAlternatives, huncut, List.map_singleton]
  simp only [Alternative.read, h.trimmed, splitAffix_of_not_isInfix h.noAffix, hclassify,
    String.ofList_toList, pathAlternative]

/-! ## Paths on pages that are JSON -/

/-- One alternative gives its results. -/
theorem firstResults_singleton {α : Type} {evaluate : Alternative → Except Failure (List α)}
    {a : Alternative} {results : List α} (h : evaluate a = .ok results) :
    firstResults evaluate [a] = pure results := by
  rw [firstResults, h]
  cases results with
  | nil => rfl
  | cons result results => rfl

section Page

variable {content : String} {v : Json} (hparse : Json.parse? content = some v)
  (hcontainer : v.isContainer = true)
include hparse hcontainer

/-- On a text that is JSON such an alternative is a path of JSON. -/
theorem dialectFor_pathAlternative {dialect : Dialect} {path : String}
    (hdialect : dialect = .structural ∨ dialect = .json) (hroot : ['$'] <+: path.toList) :
    (pathAlternative dialect path).dialectFor (.text content) = .json := by
  have hbody : path ≠ "" ∧ path ≠ "text" := by
    constructor
    · rintro rfl
      exact absurd hroot (by decide)
    · rintro rfl
      exact absurd hroot (by decide)
  rcases hdialect with rfl | rfl
  · simp [Alternative.dialectFor, pathAlternative, hbody, looksLikeJson_of_parse? hparse hcontainer]
  · rfl

variable {path : String} (hpath : IsUnmarked path) (hroot : ['$'] <+: path.toList)
  {values : List Json} (hvalues : queryJson v path = .ok values)
include hpath hroot hvalues

/-- The texts of a path are those of the values that are not empty. -/
theorem texts_path (e : Evaluator) (base : String) :
    texts e base (.text content) path = pure ((values.map valueText).filter (· != "")) := by
  obtain ⟨dialect, hdialect, hread⟩ := hpath.exists_read hroot
  have hdialect := dialectFor_pathAlternative hparse hcontainer hdialect hroot
  rw [texts, hread]
  refine firstResults_singleton ?_
  rw [Alternative.texts, hdialect]
  simp only [jsonTexts_of_parse? hparse, pathAlternative, hvalues]
  rfl

/-- The elements of a path are its values, with the items of arrays one by one. -/
theorem elements_path (e : Evaluator) (base : String) :
    elements e base (.text content) path =
      pure (((spread values).map fun v => Subject.text (valueText v)).filter (!·.isEmpty)) := by
  obtain ⟨dialect, hdialect, hread⟩ := hpath.exists_read hroot
  have hdialect := dialectFor_pathAlternative hparse hcontainer hdialect hroot
  have hblank : isBlankText path = false := by
    obtain ⟨rest, hrest⟩ := hroot
    rw [isBlankText, ← hrest]
    rfl
  have hsubjects : jsonSubjects (.text content) path =
      ((queryJson v path).mapError Failure.json).map fun values =>
        ((spread values).map fun v => Subject.text (valueText v)).filter (!·.isEmpty) := by
    rw [jsonSubjects, Subject.source, readJson, hparse]
    rfl
  have hsame : (pathAlternative dialect path).rewriteSubject (.text content) =
      .ok (.text content) := rfl
  rw [elements, hblank, hread]
  refine firstResults_singleton ?_
  simp only [Alternative.elements, hsame, bind, Except.bind, hdialect]
  rw [pathAlternative, hsubjects, hvalues]
  rfl

end Page

/-! ## Joined paths -/

@[simp] theorem toList_allItems (path suffix : String) :
    (path ++ "[*]" ++ suffix).toList = path.toList ++ '[' :: '*' :: ']' :: suffix.toList := by
  rw [String.toList_append, String.toList_append, List.append_assoc]
  rfl

@[simp] theorem toList_rooted (suffix : String) :
    ("$" ++ suffix).toList = '$' :: suffix.toList := by
  rw [String.toList_append]
  rfl

/-- The selector of all items is spelled in front of the others. -/
theorem spelled_allItems {s : List Char} {selectors : List JsonSelector}
    (h : Spelled s selectors) : Spelled ('[' :: '*' :: ']' :: s) (.all :: selectors) := by
  have hstar : ']' ∉ ['*'] := by decide
  exact .bracket hstar rfl h

/-- Marks that have nothing of `[*]` stand on both sides of it. -/
theorem spells_allItems {pats : List (List Char)} {s t : List Char}
    (hpats : ∀ pat ∈ pats, '[' ∉ pat ∧ '*' ∉ pat ∧ ']' ∉ pat)
    (h : Spells pats (s ++ '[' :: '*' :: ']' :: t)) :
    ∃ first second, pats = first ++ second ∧ Spells first s ∧ Spells second t := by
  obtain ⟨first, second, rfl, hfirst, hsecond⟩ := h.split fun pat hpat => (hpats pat hpat).1
  have hright : ∀ pat ∈ second, '*' ∉ pat ∧ ']' ∉ pat :=
    fun pat hpat => (hpats pat (List.mem_append_right first hpat)).2
  exact ⟨first, second, rfl, hfirst, (hsecond.tail fun pat hpat => (hright pat hpat).1).tail
    fun pat hpat => (hright pat hpat).2⟩

/-- A mark that has nothing of `[*]` stands on one side of it. -/
theorem isInfix_allItems {pat s t : List Char} (hpat : '[' ∉ pat ∧ '*' ∉ pat ∧ ']' ∉ pat)
    (h : pat <:+: s ++ '[' :: '*' :: ']' :: t) : pat <:+: s ∨ pat <:+: t := by
  obtain ⟨first, second, hmarks, hfirst, hsecond⟩ :=
    spells_allItems (List.forall_mem_singleton.mpr hpat) (spells_singleton_iff.mpr h)
  rcases List.append_eq_singleton_iff.mp hmarks.symm with ⟨-, rfl⟩ | ⟨rfl, -⟩
  · exact Or.inr (spells_singleton_iff.mp hsecond)
  · exact Or.inl (spells_singleton_iff.mp hfirst)

section Joined

variable {path suffix : String} (hpath : IsUnmarked path) (hroot : ['$'] <+: path.toList)
  (hsuffix : IsUnmarked suffix) (hmark : ['.'] <+: suffix.toList ∨ ['['] <+: suffix.toList)

include hmark in
/-- A suffix begins with the mark of a selector. -/
theorem exists_mark : ∃ c rest, suffix.toList = c :: rest ∧ endsName c = true := by
  rcases hmark with ⟨rest, hrest⟩ | ⟨rest, hrest⟩
  · exact ⟨'.', rest, hrest.symm, rfl⟩
  · exact ⟨'[', rest, hrest.symm, rfl⟩

include hsuffix hmark in
/-- What ends as a suffix does and begins with the mark of the root has no blanks around
it. -/
theorem trim_append_suffix (front : List Char) :
    trim ('$' :: front ++ suffix.toList) = '$' :: front ++ suffix.toList := by
  obtain ⟨c, rest, hcons, -⟩ := exists_mark hmark
  refine trim_eq_self ?_ ?_
  · exact fun c hc => Option.some.inj hc ▸ (by decide)
  · have hlast := not_isBlank_getLast_trim suffix.toList
    rw [hsuffix.trimmed] at hlast
    rwa [List.getLast?_append_of_ne_nil _ (by rw [hcons]; exact List.cons_ne_nil c rest)]

include hpath hsuffix in
/-- A path in two parts holds a script only when the first opens braces and the second
closes them. -/
theorem noScript_allItems (hbraces : ¬(Envelope.bareOpening <:+: path.toList ∧
      Envelope.bracesClosing <:+: suffix.toList)) :
    Envelope.find? true (path ++ "[*]" ++ suffix).toList = none := by
  obtain ⟨htag, hpair, hinline⟩ := Envelope.find?_eq_none_iff.mp hpath.noScript
  obtain ⟨htag', hpair', hinline'⟩ := Envelope.find?_eq_none_iff.mp hsuffix.noScript
  rw [toList_allItems, Envelope.find?_eq_none_iff]
  refine ⟨fun h => ?_, fun h => ?_, fun h => ?_⟩
  · exact (isInfix_allItems (by decide) h).elim htag htag'
  · obtain ⟨first, second, hmarks, hfirst, hsecond⟩ := spells_allItems (by decide) h
    rcases List.append_eq_cons_iff.mp hmarks.symm with ⟨rfl, rfl⟩ | ⟨first, rfl, hrest⟩
    · exact hpair' hsecond
    · rcases List.append_eq_singleton_iff.mp hrest.symm with ⟨rfl, rfl⟩ | ⟨rfl, rfl⟩
      · exact hbraces ⟨spells_singleton_iff.mp hfirst, spells_singleton_iff.mp hsecond⟩
      · exact hpair hfirst
  · exact (isInfix_allItems (by decide) h).elim hinline hinline'

include hpath hroot hsuffix hmark in
/-- A path through all items is unmarked if no envelope is opened before and closed behind. -/
theorem isUnmarked_allItems (hbraces : ¬(Envelope.bareOpening <:+: path.toList ∧
      Envelope.bracesClosing <:+: suffix.toList)) : IsUnmarked (path ++ "[*]" ++ suffix) := by
  refine ⟨?_, fun h => ?_, fun h => ?_, noScript_allItems hpath hsuffix hbraces⟩
  · obtain ⟨rest, hrest⟩ := hroot
    have hjoined : (path ++ "[*]" ++ suffix).toList =
        '$' :: (rest ++ "[*]".toList) ++ suffix.toList := by
      rw [toList_allItems, ← hrest]
      simp
    rw [hjoined, trim_append_suffix hsuffix hmark]
  · rw [toList_allItems] at h
    exact (isInfix_allItems (by decide) h).elim hpath.noAffix hsuffix.noAffix
  · rw [toList_allItems] at h
    exact (isInfix_allItems (by decide) h).elim hpath.noAlternative hsuffix.noAlternative

include hsuffix hmark in
theorem isUnmarked_rooted : IsUnmarked ("$" ++ suffix) := by
  have hspells {pats : List (List Char)} (hpats : ∀ pat ∈ pats, '$' ∉ pat)
      (h : Spells pats ("$" ++ suffix).toList) : Spells pats suffix.toList := by
    rw [toList_rooted] at h
    exact h.tail hpats
  have hpiece {pat : List Char} (hpat : '$' ∉ pat) (h : pat <:+: ("$" ++ suffix).toList) :
      pat <:+: suffix.toList :=
    spells_singleton_iff.mp (hspells (List.forall_mem_singleton.mpr hpat)
      (spells_singleton_iff.mpr h))
  obtain ⟨htag, hpair, hinline⟩ := Envelope.find?_eq_none_iff.mp hsuffix.noScript
  refine ⟨?_, fun h => ?_, fun h => ?_, ?_⟩
  · rw [toList_rooted]
    exact trim_append_suffix hsuffix hmark []
  · exact hsuffix.noAffix (hpiece (by decide) h)
  · exact hsuffix.noAlternative (hpiece (by decide) h)
  · exact Envelope.find?_eq_none_iff.mpr ⟨fun h => htag (hpiece (by decide) h),
      fun h => hpair (hspells (by decide) h), fun h => hinline (hpiece (by decide) h)⟩

include hpath hroot hsuffix hmark in
/-- **Cutting at `[*]`.**  A path that goes through all items of an array and on is read
as its parts are, so that it finds in them what its end finds. -/
theorem queryJson_allItems {v : Json} {items : List Json} {selectors : List JsonSelector}
    (hselects : queryJson v path = .ok [.array items])
    (hread : readJsonPath ("$" ++ suffix).toList = .ok selectors) :
    queryJson v (path ++ "[*]" ++ suffix) = .ok (items.flatMap (applySelectors selectors)) := by
  obtain ⟨c, rest, hcons, hc⟩ := exists_mark hmark
  have hends : EndsNames suffix.toList := by
    rw [hcons]
    exact fun d hd => Option.some.inj hd ▸ hc
  have hspelled : Spelled suffix.toList selectors := by
    have htrim : trim ('$' :: suffix.toList) = '$' :: suffix.toList :=
      trim_append_suffix hsuffix hmark []
    rw [toList_rooted, readJsonPath_eq_ok_iff, belowRoot_rooted htrim] at hread
    exact hread.spelled hends
  obtain ⟨first, hfirst, hfound⟩ := queryJson_eq_ok_iff.mp hselects
  obtain ⟨s, hs⟩ := hroot
  rw [List.singleton_append] at hs
  have hpathTrim := hpath.trimmed
  rw [← hs] at hfirst hpathTrim
  rw [readJsonPath_eq_ok_iff, belowRoot_rooted hpathTrim] at hfirst
  have hjoined := hfirst.append (spelled_allItems hspelled)
  have hjoinedTrim : trim ('$' :: (s ++ '[' :: '*' :: ']' :: suffix.toList)) =
      '$' :: (s ++ '[' :: '*' :: ']' :: suffix.toList) := by
    have htrim := trim_append_suffix hsuffix hmark (s ++ "[*]".toList)
    simpa using htrim
  refine queryJson_eq_ok_iff.mpr ⟨first ++ .all :: selectors, ?_, ?_⟩
  · rw [toList_allItems, ← hs, List.cons_append, readJsonPath_eq_ok_iff,
      belowRoot_rooted hjoinedTrim]
    exact hjoined
  · rw [applySelectors_append, hfound, List.flatMap_singleton, applySelectors_cons]
    rfl

end Joined

/-! ## Items -/

/-- What is found in a scalar is the scalar. -/
theorem eq_of_mem_applySelectors {v w : Json} (hscalar : v.isContainer = false)
    {selectors : List JsonSelector} (h : w ∈ applySelectors selectors v) : w = v := by
  cases selectors with
  | nil => exact List.mem_singleton.mp h
  | cons s selectors =>
      have hnothing : s.apply v = [] := by
        cases v with
        | array items => contradiction
        | object members => contradiction
        | _ => cases s <;> rfl
      rw [applySelectors_cons, hnothing] at h
      cases h

/-- Only a container holds an array. -/
theorem isContainer_of_queryJson {v : Json} {path : String} {items : List Json}
    (h : queryJson v path = .ok [.array items]) : v.isContainer = true := by
  obtain ⟨selectors, -, hfound⟩ := queryJson_eq_ok_iff.mp h
  have hmem : Json.array items ∈ applySelectors selectors v := by
    rw [hfound]
    exact List.mem_singleton_self _
  rw [← Bool.not_eq_false]
  intro hscalar
  rw [← eq_of_mem_applySelectors hscalar hmem] at hscalar
  contradiction

/-- The text of a container is its JSON, which is not empty. -/
theorem valueText_of_isContainer {item : Json} (h : item.isContainer = true) :
    valueText item = item.text ∧ (Subject.text item.text).isEmpty = false := by
  cases item with
  | array items =>
      refine ⟨rfl, ?_⟩
      rw [Subject.isEmpty, Subject.source, isBlankText, Json.text, String.toList_append,
        String.toList_append]
      rfl
  | object members =>
      refine ⟨rfl, ?_⟩
      rw [Subject.isEmpty, Subject.source, isBlankText, Json.text, String.toList_append,
        String.toList_append]
      rfl
  | _ => contradiction

/-- The items of an array as subjects. -/
theorem elements_items (e : Evaluator) (base : String) {content path : String} {v : Json}
    {items : List Json} (hparse : Json.parse? content = some v) (hpath : IsUnmarked path)
    (hroot : ['$'] <+: path.toList) (hselects : queryJson v path = .ok [.array items])
    (hitems : ∀ item ∈ items, item.isContainer = true) :
    elements e base (.text content) path =
      pure (items.map fun item => Subject.text item.text) := by
  have hsubjects : (items.map fun v => Subject.text (valueText v)) =
      items.map fun item => Subject.text item.text :=
    List.map_congr_left fun item hitem => by rw [(valueText_of_isContainer (hitems item hitem)).1]
  rw [elements_path hparse (isContainer_of_queryJson hselects) hpath hroot hselects, spread,
    hsubjects, List.filter_eq_self.mpr]
  intro subject hsubject
  obtain ⟨item, hitem, rfl⟩ := List.mem_map.mp hsubject
  rw [(valueText_of_isContainer (hitems item hitem)).2]
  rfl

/-- **Two stages.**  Let a path select an array of arrays and objects on a page, and let
every item be read from its text again.  Then the texts of a path that goes through all
items and on are those that its end gives on every item, one item after the other, unless
the first part opens braces and the end closes them: the texts of what the selectors of
the end take from the items. -/
theorem texts_allItems (e : Evaluator) (base : String) {content path suffix : String} {v : Json}
    {items : List Json} {selectors : List JsonSelector} (hparse : Json.parse? content = some v)
    (hpath : IsUnmarked path) (hroot : ['$'] <+: path.toList)
    (hselects : queryJson v path = .ok [.array items])
    (hitems : ∀ item ∈ items, item.isContainer = true)
    (hagain : ∀ item ∈ items, Json.parse? item.text = some item)
    (hsuffix : IsUnmarked suffix) (hmark : ['.'] <+: suffix.toList ∨ ['['] <+: suffix.toList)
    (hread : readJsonPath ("$" ++ suffix).toList = .ok selectors)
    (hbraces : ¬(Envelope.bareOpening <:+: path.toList ∧
      Envelope.bracesClosing <:+: suffix.toList)) :
    texts e base (.text content) (path ++ "[*]" ++ suffix) =
        (elements e base (.text content) path >>=
          Traced.flatEach fun node => texts e base node ("$" ++ suffix)) ∧
      texts e base (.text content) (path ++ "[*]" ++ suffix) =
        pure (((items.flatMap (applySelectors selectors)).map valueText).filter (· != "")) := by
  have hjoinedRoot : ['$'] <+: (path ++ "[*]" ++ suffix).toList := by
    rw [toList_allItems]
    exact hroot.trans (List.prefix_append _ _)
  have hnode (item : Json) (hitem : item ∈ items) :
      texts e base (.text item.text) ("$" ++ suffix) =
        pure (((applySelectors selectors item).map valueText).filter (· != "")) := by
    refine texts_path (hagain item hitem) (hitems item hitem) (isUnmarked_rooted hsuffix hmark)
      ?_ (queryJson_eq_ok_iff.mpr ⟨selectors, hread, rfl⟩) e base
    rw [toList_rooted]
    exact List.prefix_append ['$'] _
  have hnodes := Traced.flatEach_map_eq_pure (f := fun node => texts e base node ("$" ++ suffix))
    (g := fun item : Json => Subject.text item.text) hnode
  have hjoined := texts_path hparse (isContainer_of_queryJson hselects)
    (isUnmarked_allItems hpath hroot hsuffix hmark hbraces) hjoinedRoot
    (queryJson_allItems hpath hroot hsuffix hmark hselects hread) e base
  refine ⟨?_, hjoined⟩
  rw [hjoined, elements_items e base hparse hpath hroot hselects hitems, Traced.pure_bind, hnodes,
    List.map_flatMap, List.filter_flatMap]

/-- A shelf of two books. -/
def shelfPage : String :=
  "\x7b\"books\":[\x7b\"title\":\"A\"\x7d,\x7b\"title\":\"B\"\x7d]\x7d"

/-- A book. -/
def shelfBook (title : String) : Json := .object [("title", .string title)]

theorem parse?_shelfPage : Json.parse? shelfPage =
    some (.object [("books", .array [shelfBook "A", shelfBook "B"])]) := by
  have htokens : Json.tokens? shelfPage.toList = some [.openObject, .string "books", .colon,
      .openArray, .openObject, .string "title", .colon, .string "A", .closeObject, .comma,
      .openObject, .string "title", .colon, .string "B", .closeObject, .closeArray,
      .closeObject] := by decide +kernel
  exact Json.parse?_of_tokens? htokens rfl

theorem parse?_text_shelfBook :
    ∀ book ∈ [shelfBook "A", shelfBook "B"], Json.parse? book.text = some book := by
  have htokens (title : String) (h : title = "A" ∨ title = "B") :
      Json.tokens? (shelfBook title).text.toList =
        some [.openObject, .string "title", .colon, .string title, .closeObject] := by
    rcases h with rfl | rfl
    · decide +kernel
    · decide +kernel
  refine List.forall_mem_cons.mpr ⟨?_, List.forall_mem_singleton.mpr ?_⟩
  · exact Json.parse?_of_tokens? (htokens "A" (Or.inl rfl)) rfl
  · exact Json.parse?_of_tokens? (htokens "B" (Or.inr rfl)) rfl

/-- The titles of the books in two stages and in one. -/
theorem texts_allItems_shelf :
    Json.parse? shelfPage = some (.object [("books", .array [shelfBook "A", shelfBook "B"])]) ∧
      IsUnmarked "$.books" ∧ IsUnmarked ".title" ∧
      (∀ book ∈ [shelfBook "A", shelfBook "B"], Json.parse? book.text = some book) ∧
      (texts (fun _ _ => pure (.ok .empty)) "" (.text shelfPage)
        ("$.books" ++ "[*]" ++ ".title")).value = ["A", "B"] ∧
      (elements (fun _ _ => pure (.ok .empty)) "" (.text shelfPage) "$.books" >>=
        Traced.flatEach fun node =>
          texts (fun _ _ => pure (.ok .empty)) "" node ("$" ++ ".title")).value = ["A", "B"] := by
  have hpath : IsUnmarked "$.books" := ⟨by decide, by decide, by decide, by decide⟩
  have hsuffix : IsUnmarked ".title" := ⟨by decide, by decide, by decide, by decide⟩
  have hselects : queryJson (.object [("books", .array [shelfBook "A", shelfBook "B"])]) "$.books" =
      .ok [.array [shelfBook "A", shelfBook "B"]] :=
    queryJson_eq_ok_iff.mpr ⟨[.key "books"], by decide +kernel, rfl⟩
  have hread : readJsonPath ("$" ++ ".title").toList = .ok [.key "title"] := by decide +kernel
  obtain ⟨hstages, hjoined⟩ := texts_allItems (fun _ _ => pure (.ok .empty)) "" parse?_shelfPage
    hpath (by decide) hselects (by decide) parse?_text_shelfBook hsuffix (by decide) hread
    (by decide)
  refine ⟨parse?_shelfPage, hpath, hsuffix, parse?_text_shelfBook, ?_, ?_⟩
  · rw [hjoined]
    decide +kernel
  · rw [← hstages, hjoined]
    decide +kernel

/-- A page whose names open and close braces. -/
def bracesPage : String := "\x7b\"\x7b\x7b\":[\x7b\"\x7d\x7d\":\"x\"\x7d]\x7d"

/-- What stands in it. -/
def bracesItem : Json := .object [("\x7d\x7d", .string "x")]

/-- In one path the braces are those of a script, and the text that is found in two stages
is not. -/
theorem not_texts_allItems_braces :
    Json.parse? bracesPage = some (.object [("\x7b\x7b", .array [bracesItem])]) ∧
      IsUnmarked "$['\x7b\x7b']" ∧ IsUnmarked "['\x7d\x7d']" ∧
      queryJson (.object [("\x7b\x7b", .array [bracesItem])]) "$['\x7b\x7b']" =
        .ok [.array [bracesItem]] ∧
      bracesItem.isContainer = true ∧ Json.parse? bracesItem.text = some bracesItem ∧
      readJsonPath ("$" ++ "['\x7d\x7d']").toList = .ok [.key "\x7d\x7d"] ∧
      (texts (fun _ _ => pure (.ok .empty)) "" (.text bracesPage)
        ("$['\x7b\x7b']" ++ "[*]" ++ "['\x7d\x7d']")).value ≠
      (elements (fun _ _ => pure (.ok .empty)) "" (.text bracesPage) "$['\x7b\x7b']" >>=
        Traced.flatEach fun node =>
          texts (fun _ _ => pure (.ok .empty)) "" node ("$" ++ "['\x7d\x7d']")).value := by
  have hpage : Json.tokens? bracesPage.toList = some [.openObject, .string "\x7b\x7b", .colon,
      .openArray, .openObject, .string "\x7d\x7d", .colon, .string "x", .closeObject,
      .closeArray, .closeObject] := by decide +kernel
  have hitem : Json.tokens? bracesItem.text.toList = some [.openObject, .string "\x7d\x7d",
      .colon, .string "x", .closeObject] := by decide +kernel
  refine ⟨Json.parse?_of_tokens? hpage rfl, ⟨by decide, by decide, by decide, by decide⟩,
    ⟨by decide, by decide, by decide, by decide⟩, ?_, rfl, Json.parse?_of_tokens? hitem rfl,
    by decide +kernel, by decide +kernel⟩
  exact queryJson_eq_ok_iff.mpr ⟨[.key "\x7b\x7b"], by decide +kernel, rfl⟩

end Folio.Rule
