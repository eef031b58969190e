import Folio.Proofs.Rule.JsonPath
import Folio.Proofs.Rule.LeafSyntax

/-!
# Folio.Proofs.Rule.DefaultLeaf

The default leaf on pages that are JSON.  Whether an alternative without a
marker is a cascade or a JSON path is told by the page it is applied to, and
the default leaf is put behind it before the page is known.  On a page that is
an array or an object it becomes part of the path: `data.content` looks for the
member `content`, and `data.content@html` for a member `content@html`
(`markup_withDefaultLeaf_json`).
-/

namespace Folio.Rule

open Folio.Text Folio.Script

/-! ## Shorthand -/

/-- The alternative is a JSON path without the mark of its root wherever it is
applied to JSON.  The body `text` is none, since it takes the text itself. -/
structure Alternative.IsShorthand (a : Alternative) : Prop where
  dialect : a.dialect = .structural
  marked : a.marked = false
  affix : a.affix = none
  body_ne_empty : a.body ≠ ""
  body_ne_text : a.body ≠ "text"

/-- Every alternative of the rule is such a path, and the rule has no mark of a
step, of an affix or of a script. -/
structure IsShorthand (rule : String) : Prop where
  noStep : '@' ∉ rule.toList
  noAffix : ¬affixMark <:+: rule.toList
  noScript : Envelope.find? true rule.toList = none
  alternatives : ∀ a ∈ readAlternatives rule.toList, a.IsShorthand

/-- The paths of a rule. -/
def paths (rule : String) : List String := (readAlternatives rule.toList).map (·.body)

/-! ## Reading one alternative -/

/-- A body without a marker is a cascade unless it begins like a path. -/
theorem classify_of_not_marked {body : List Char} (h : ¬['@'] <+: body) :
    classify body =
      if startsWith ['/'] body || startsWith ['.', '/'] body then (.path, false, body)
      else if startsWith ['$', '.'] body || startsWith ['$', '['] body then (.json, false, body)
      else (.structural, false, body) := by
  have hnone {marker : List Char} (hmarker : ['@'] <+: marker) :
      stripPrefix? marker body = none := by
    rw [stripPrefix?_eq_none_iff]
    exact fun hstart => h (hmarker.trans hstart)
  rw [classify, hnone (by decide), hnone (by decide), hnone (by decide)]

/-- The text of an alternative is a path: a cascade that has no mark of a step or of an
affix. -/
structure IsPath (raw : List Char) : Prop where
  noStep : '@' ∉ raw
  noAffix : ¬affixMark <:+: raw
  ne_nil : trim raw ≠ []
  structural : (Alternative.read raw).dialect = .structural

namespace IsPath

variable {raw : List Char} (h : IsPath raw)
include h

/-- A shorthand has no affix. -/
theorem not_affixMark_infix_trim : ¬affixMark <:+: trim raw :=
  fun hmark => h.noAffix (hmark.trans (trim_isInfix raw))

/-- A shorthand has one step. -/
theorem not_mem_trim : '@' ∉ trim raw := fun hmem => h.noStep ((trim_isInfix raw).subset hmem)

/-- A shorthand is read by its structure. -/
theorem classify_eq : classify (trim raw) = (.structural, false, trim raw) := by
  have hread : (classify (trim raw)).1 = .structural := by
    have hstructural := h.structural
    rw [Alternative.read, splitAffix_of_not_isInfix h.not_affixMark_infix_trim] at hstructural
    rw [← trim_trim]
    exact hstructural
  have hmarker : ¬['@'] <+: trim raw :=
    fun hstart => h.not_mem_trim (hstart.subset List.mem_cons_self)
  rw [classify_of_not_marked hmarker] at hread ⊢
  split at hread
  · cases hread
  · next hpath =>
    rw [if_neg hpath]
    split at hread
    · cases hread
    · next hjson => rw [if_neg hjson]

/-- A shorthand is read as an alternative that is all body. -/
theorem read_eq : Alternative.read raw = ⟨.structural, false, String.ofList (trim raw), none⟩ := by
  simp only [Alternative.read, splitAffix_of_not_isInfix h.not_affixMark_infix_trim, trim_trim,
    h.classify_eq]

/-- So it is a single step. -/
theorem isSingleStep : (Alternative.read raw).isSingleStep = true := by
  have hlacks : ∀ c ∈ trim raw, c ∉ stepMark := by
    intro c hc hmark
    rw [List.mem_singleton.mp hmark] at hc
    exact h.not_mem_trim hc
  have hcut : splitTopLevel stepMark false (trim raw) = [trim raw] :=
    splitFrom_of_not_mem (by decide) hlacks .top
  rw [h.read_eq]
  simp [Alternative.isSingleStep, Alternative.steps, cascade, hcut, trim_trim, h.ne_nil]

/-- The default step is put behind it. -/
theorem leafText_eq : leafText raw = leafed raw := by
  rw [leafText, if_pos h.isSingleStep, appendStep,
    cut?_eq_none_iff.mpr h.not_affixMark_infix_trim]
  rfl

end IsPath

/-! ## Reading a rule -/

section Shorthand

variable {rule : String} (h : IsShorthand rule)
include h

/-- A rule of paths is cut into paths. -/
theorem IsShorthand.isPath {raw : List Char}
    (hraw : raw ∈ splitTopLevel alternativeMark false (trim rule.toList)) : IsPath raw := by
  have hpart : raw <:+: rule.toList :=
    (isInfix_of_mem_splitTopLevel (by decide) hraw).trans (trim_isInfix _)
  have hread : (Alternative.read raw).IsShorthand := by
    apply h.alternatives
    rw [← readAlternatives_trim]
    exact List.mem_map_of_mem hraw
  refine ⟨fun hmem => h.noStep (hpart.subset hmem), fun haffix => h.noAffix (haffix.trans hpart),
    fun htrim => ?_, hread.dialect⟩
  have hempty : Alternative.read raw = Alternative.read [] := read_congr htrim
  exact hread.body_ne_empty (by rw [hempty]; rfl)

/-- Every alternative that is a shorthand is a single step. -/
theorem IsShorthand.isSingleStep {a : Alternative} (ha : a ∈ readAlternatives rule.toList) :
    a.isSingleStep = true := by
  rw [← readAlternatives_trim] at ha
  obtain ⟨raw, hraw, rfl⟩ := List.mem_map.mp ha
  exact (h.isPath hraw).isSingleStep

/-- The default leaf is put behind every path. -/
theorem IsShorthand.readAlternatives_withDefaultLeaf :
    readAlternatives (withDefaultLeaf rule "html").toList =
      (readAlternatives rule.toList).map fun a => { a with body := a.body ++ "@html" } := by
  rw [Rule.readAlternatives_withDefaultLeaf h.noScript]
  · exact List.map_congr_left fun a ha => if_pos (h.isSingleStep ha)
  · intro raw hraw
    rw [(h.isPath hraw).leafText_eq, leafed, List.getLast?_append_of_ne_nil _ (by decide)]
    decide

/-- **The default leaf in a rule of paths.**  It becomes a part of every path. -/
theorem IsShorthand.paths_withDefaultLeaf :
    paths (withDefaultLeaf rule "html") = (paths rule).map (· ++ "@html") := by
  simp [paths, h.readAlternatives_withDefaultLeaf]

/-- The paths that it becomes a part of are paths still. -/
theorem IsShorthand.alternatives_withDefaultLeaf :
    ∀ a ∈ readAlternatives (withDefaultLeaf rule "html").toList, a.IsShorthand := by
  rw [h.readAlternatives_withDefaultLeaf, List.forall_mem_map]
  intro a ha
  have hbody {body : String} (hbody : ¬defaultStep <:+ body.toList) : a.body ++ "@html" ≠ body := by
    rintro rfl
    rw [String.toList_append] at hbody
    exact hbody (List.suffix_append _ _)
  obtain ⟨hdialect, hmarked, haffix, -, -⟩ := h.alternatives a ha
  exact ⟨hdialect, hmarked, haffix, hbody (by decide), hbody (by decide)⟩

/-- A path of the rule is a text without blanks around it. -/
theorem IsShorthand.exists_of_mem_paths {path : String} (hmem : path ∈ paths rule) :
    ∃ raw, trim raw ≠ [] ∧ path = String.ofList (trim raw) := by
  rw [paths, ← readAlternatives_trim, readAlternatives, List.map_map] at hmem
  obtain ⟨raw, hraw, rfl⟩ := List.mem_map.mp hmem
  have hpath := h.isPath hraw
  exact ⟨raw, hpath.ne_nil, by rw [Function.comp_apply, hpath.read_eq]⟩

end Shorthand

/-! ## Evaluation -/

/-- The texts that a path finds in a value, without the empty ones. -/
def memberTexts (v : Json) (path : String) : List String :=
  (((queryJson v path).toOption.getD []).map valueText).filter (· != "")

/-- The texts of the first path that finds any. -/
def firstFound (v : Json) (paths : List String) : List String :=
  ((paths.map (memberTexts v)).find? (!·.isEmpty)).getD []

/-- The texts that a path finds on a page are those that it finds in the value of the
page. -/
theorem jsonTexts_of_parse? {content : String} {v : Json} (hparse : Json.parse? content = some v)
    (path : String) : jsonTexts (.text content) path =
      ((queryJson v path).mapError Failure.json).map fun values => values.map valueText := by
  rw [jsonTexts, Subject.source, readJson, hparse]
  rfl

section Page

variable {content : String} {v : Json} (hparse : Json.parse? content = some v)
  (hcontainer : v.isContainer = true)
include hparse hcontainer

/-- On a page that is JSON a path is what it looks like. -/
theorem Alternative.IsShorthand.texts_eq {a : Alternative} (h : a.IsShorthand) (base : String)
    (r : Render) : (a.texts (.text content) base r).toOption.getD [] = memberTexts v a.body := by
  have hdialect : a.dialectFor (.text content) = .json := by
    have hstructural : ¬(a.marked || a.dialect != .structural || a.body == "" ||
        a.body == "text") = true := by
      simp [h.marked, h.dialect, h.body_ne_empty, h.body_ne_text]
    simp only [Alternative.dialectFor, if_neg hstructural,
      looksLikeJson_of_parse? hparse hcontainer, if_true]
  rw [Alternative.texts, hdialect, memberTexts]
  simp only [jsonTexts_of_parse? hparse, Alternative.rewrite, h.affix]
  cases queryJson v a.body with
  | error failure => rfl
  | ok values => rfl

/-- The markup of shorthands on JSON is what the first path finds, joined by line ends. -/
theorem value_markup_eq (e : Evaluator) (base : String) {rule : String}
    (hscript : Envelope.find? true rule.toList = none)
    (hall : ∀ a ∈ readAlternatives rule.toList, a.IsShorthand) :
    (markup e base (.text content) rule).value = "\n".intercalate (firstFound v (paths rule)) := by
  have htexts : (readAlternatives rule.toList).map
      (fun a => (a.texts (.text content) base .markup).toOption.getD []) =
        (paths rule).map (memberTexts v) := by
    rw [paths, List.map_map]
    exact List.map_congr_left fun a ha => (hall a ha).texts_eq hparse hcontainer base .markup
  rw [markup, read_of_none hscript]
  simp only [Expr.texts, Traced.value_bind, Traced.value_pure, value_firstResults, htexts]
  rfl

end Page

/-- The default step is a part of a name. -/
theorem isNamePart_defaultStep : IsNamePart defaultStep :=
  ⟨by decide, forall_mem_defaultStep.mpr (by decide)⟩

/-- A path with the default step behind it finds nothing among members whose names
do not end with that step. -/
theorem memberTexts_eq_nil {v : Json} (hv : ∀ name ∈ v.memberNames, ¬defaultStep <:+ name.toList)
    {raw : List Char} (hne : trim raw ≠ []) :
    memberTexts v (String.ofList (trim raw) ++ "@html") = [] := by
  have hpath : (String.ofList (trim raw) ++ "@html").toList = trim raw ++ defaultStep := by
    rw [String.toList_append, String.toList_ofList]
    rfl
  rw [memberTexts, queryJson, hpath]
  cases hread : readJsonPath (trim raw ++ defaultStep) with
  | error failure => rfl
  | ok selectors =>
      have hends := endsIn_of_readJsonPath isNamePart_defaultStep hne
        (trim_leafed raw) hread
      have hnil := applySelectors_eq_nil isNamePart_defaultStep hends hv
      simp only [Except.map, hnil]
      rfl

/-- What is found is not empty. -/
theorem ne_empty_of_mem_firstFound {v : Json} {paths : List String} :
    ∀ value ∈ firstFound v paths, value ≠ "" := by
  intro value hvalue
  rw [firstFound] at hvalue
  cases hfound : (paths.map (memberTexts v)).find? (!·.isEmpty) with
  | none =>
      rw [hfound] at hvalue
      cases hvalue
  | some values =>
      obtain ⟨path, -, rfl⟩ := List.mem_map.mp (List.mem_of_find?_eq_some hfound)
      rw [hfound] at hvalue
      exact bne_iff_ne.mp (List.mem_filter.mp hvalue).2

/-- Nothing is found when no path finds anything. -/
theorem firstFound_eq_nil {v : Json} {paths : List String}
    (h : ∀ path ∈ paths, memberTexts v path = []) : firstFound v paths = [] := by
  have hnone : (paths.map (memberTexts v)).find? (!·.isEmpty) = none := by
    rw [List.find?_eq_none, List.forall_mem_map]
    intro path hpath
    simp [h path hpath]
  rw [firstFound, hnone]
  rfl

/-- **The default leaf on JSON.**  On a page that is an array or an object the default
leaf becomes a part of every path.  Where no member has a name that ends with it,
it costs the rule everything that it finds. -/
theorem markup_withDefaultLeaf_json (e : Evaluator) (base : String) {content : String} {v : Json}
    (hparse : Json.parse? content = some v) (hcontainer : v.isContainer = true) {rule : String}
    (hrule : IsShorthand rule) :
    (markup e base (.text content) rule).value = "\n".intercalate (firstFound v (paths rule)) ∧
      (markup e base (.text content) (withDefaultLeaf rule "html")).value =
        "\n".intercalate (firstFound v ((paths rule).map (· ++ "@html"))) ∧
      ((∀ name ∈ v.memberNames, ¬defaultStep <:+ name.toList) →
        (markup e base (.text content) (withDefaultLeaf rule "html")).value = "" ∧
        ((markup e base (.text content) (withDefaultLeaf rule "html")).value =
          (markup e base (.text content) rule).value ↔ firstFound v (paths rule) = [])) := by
  have hplain := value_markup_eq hparse hcontainer e base hrule.noScript hrule.alternatives
  have hleafed := value_markup_eq hparse hcontainer e base (noScript_withDefaultLeaf hrule.noScript)
    hrule.alternatives_withDefaultLeaf
  rw [hrule.paths_withDefaultLeaf] at hleafed
  refine ⟨hplain, hleafed, fun hnames => ?_⟩
  have hnothing : firstFound v ((paths rule).map (· ++ "@html")) = [] := by
    refine firstFound_eq_nil (List.forall_mem_map.mpr fun path hpath => ?_)
    obtain ⟨raw, hne, rfl⟩ := hrule.exists_of_mem_paths hpath
    exact memberTexts_eq_nil hnames hne
  have hempty : (markup e base (.text content) (withDefaultLeaf rule "html")).value = "" := by
    rw [hleafed, hnothing]
    rfl
  refine ⟨hempty, ?_⟩
  rw [hempty, hplain, eq_comm, intercalate_eq_empty_iff ne_empty_of_mem_firstFound]

/-- A chapter inside an object. -/
def chapterPage : String := "\x7b\"data\":\x7b\"content\":\"Hello\"\x7d\x7d"

/-- What it is read as. -/
def chapterDocument : Json := .object [("data", .object [("content", .string "Hello")])]

theorem parse?_chapterPage : Json.parse? chapterPage = some chapterDocument := by
  have htokens : Json.tokens? chapterPage.toList =
      some [.openObject, .string "data", .colon, .openObject, .string "content", .colon,
        .string "Hello", .closeObject, .closeObject] := by decide +kernel
  exact Json.parse?_of_tokens? htokens rfl

/-- A path of names is a shorthand. -/
theorem isShorthand_chapterPath : IsShorthand "data.content" := by
  have hread : readAlternatives "data.content".toList =
      [⟨.structural, false, "data.content", none⟩] := by decide +kernel
  refine ⟨by decide, by decide, by decide, ?_⟩
  rw [hread, List.forall_mem_singleton]
  exact ⟨rfl, rfl, rfl, by decide, by decide⟩

/-- The path of the chapter finds it, and nothing with the default leaf. -/
theorem markup_withDefaultLeaf_chapterPage :
    Json.parse? chapterPage = some chapterDocument ∧ chapterDocument.isContainer = true ∧
      IsShorthand "data.content" ∧
      (markup (fun _ _ => pure (.ok .empty)) "" (.text chapterPage) "data.content").value =
        "Hello" ∧
      (markup (fun _ _ => pure (.ok .empty)) "" (.text chapterPage)
        (withDefaultLeaf "data.content" "html")).value = "" := by
  obtain ⟨hplain, -, hlost⟩ := markup_withDefaultLeaf_json (fun _ _ => pure (.ok .empty)) ""
    parse?_chapterPage rfl isShorthand_chapterPath
  refine ⟨parse?_chapterPage, rfl, isShorthand_chapterPath, ?_, (hlost (by decide)).1⟩
  rw [hplain]
  decide +kernel

/-- The default leaf changes what a path gives on a page that is JSON. -/
theorem not_markup_withDefaultLeaf_eq :
    Json.parse? chapterPage = some chapterDocument ∧ chapterDocument.isContainer = true ∧
      IsShorthand "data.content" ∧
      (markup (fun _ _ => pure (.ok .empty)) "" (.text chapterPage)
        (withDefaultLeaf "data.content" "html")).value ≠
      (markup (fun _ _ => pure (.ok .empty)) "" (.text chapterPage) "data.content").value :=
  ⟨parse?_chapterPage, rfl, isShorthand_chapterPath, by decide +kernel⟩

end Folio.Rule
