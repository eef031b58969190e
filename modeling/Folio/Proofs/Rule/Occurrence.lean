import Folio.Proofs.Rule.Chain
import Mathlib.Data.List.Nodup

/-!
# Folio.Proofs.Rule.Occurrence

The texts that a location path finds, with where they come from.  Only the last
step of a path takes texts, and from one element it takes each only once.  It
drops no text, however: where it descends from contexts that share an element,
it takes the texts of that element once from each of them.
-/

namespace Folio.Rule

open Folio.Markup

/-! ## Occurrences -/

/-- The text that is found. -/
def PathItem.text? : PathItem → Option String
  | .node _ => none
  | .text content => some content

/-- The text that is a result. -/
def PathResult.text? : PathResult → Option String
  | .element _ => none
  | .text content => some content

/-- The texts among the results of a path. -/
def LocationPath.texts (path : LocationPath) (element : Place) : List String :=
  (keepFirstElements ∅ (path.found element)).filterMap PathResult.text?

/-- A text in a tree: the element whose text node or attribute it is, and its
number among those that a step takes from that element. -/
structure Occurrence where
  owner : Place
  number : Nat
  content : String

/-- What tells the occurrences in one tree apart. -/
def Occurrence.origin (o : Occurrence) : List Nat × Nat := (o.owner.path, o.number)

/-- The texts that a step takes from one of its contexts. -/
def PathStep.occurrences (step : PathStep) (c : PathContext) : List Occurrence :=
  let texts := (step.survivors c).filterMap PathItem.text?
  texts.zipIdx.map fun (content, number) => ⟨c.element, number, content⟩

/-- The texts that a path finds: those that its last step takes from its
contexts. -/
def LocationPath.occurrences (path : LocationPath) (element : Place) : List Occurrence :=
  match path.steps.getLast? with
  | none => []
  | some last =>
    let items := LocationPath.found ⟨path.absolute, path.steps.dropLast⟩ element
    (last.contexts items).flatMap last.occurrences

/-- No text is found twice. -/
def EachOnce (occurrences : List Occurrence) : Prop := (occurrences.map Occurrence.origin).Nodup

theorem LocationPath.occurrences_eq {path : LocationPath} {before : List PathStep}
    {last : PathStep} (h : path.steps = before ++ [last]) (element : Place) :
    path.occurrences element =
      (last.contexts (LocationPath.found ⟨path.absolute, before⟩ element)).flatMap
        last.occurrences := by
  simp [LocationPath.occurrences, h]

/-! ## Texts -/

@[simp] theorem filterMap_text?_keepFirst (keys : Std.HashSet (Bool × List Nat))
    (items : List PathItem) :
    (keepFirst keys items).filterMap PathItem.text? = items.filterMap PathItem.text? := by
  induction items generalizing keys with
  | nil => rfl
  | cons item items ih =>
      cases item with
      | text content => exact congrArg (content :: ·) (ih keys)
      | node c =>
          rw [keepFirst]
          split
          · exact ih keys
          · exact ih (keys.insert c.key)

@[simp] theorem filterMap_text?_keepFirstElements (seen : Std.HashSet (List Nat))
    (items : List PathItem) :
    (keepFirstElements seen items).filterMap PathResult.text? =
      items.filterMap PathItem.text? := by
  induction items generalizing seen with
  | nil => rfl
  | cons item items ih =>
      cases item with
      | text content => exact congrArg (content :: ·) (ih seen)
      | node c =>
          rw [keepFirstElements]
          split
          · exact ih seen
          · exact ih (seen.insert c.element.path)

@[simp] theorem map_content_occurrences (step : PathStep) (c : PathContext) :
    (step.occurrences c).map Occurrence.content =
      (step.survivors c).filterMap PathItem.text? := by
  rw [PathStep.occurrences, List.map_map]
  exact List.zipIdx_map_fst 0 _

/-- The texts among the results of a path are those of its occurrences. -/
theorem LocationPath.texts_eq {path : LocationPath} {element : Place}
    (hsome : (path.evaluate element).isSome = true) :
    path.texts element = (path.occurrences element).map Occurrence.content := by
  rw [LocationPath.texts, filterMap_text?_keepFirstElements]
  rcases List.eq_nil_or_concat path.steps with hsteps | ⟨before, last, hsteps⟩
  · rw [LocationPath.found, LocationPath.evaluate, LocationPath.occurrences, hsteps]
    rfl
  · rw [List.concat_eq_append] at hsteps
    rw [path.occurrences_eq hsteps, LocationPath.found_concat hsteps hsome,
      filterMap_text?_keepFirst, List.filterMap_flatMap, List.map_flatMap]
    simp only [map_content_occurrences]

/-! ## Origins -/

section Origins

variable {step : PathStep} {c d : PathContext}

theorem path_of_mem_origins {origin : List Nat × Nat}
    (h : origin ∈ (step.occurrences c).map Occurrence.origin) : origin.1 = c.element.path := by
  obtain ⟨o, ho, rfl⟩ := List.mem_map.mp h
  obtain ⟨⟨content, number⟩, _, rfl⟩ := List.mem_map.mp ho
  rfl

/-- From one context no text is taken twice. -/
theorem nodup_origins (step : PathStep) (c : PathContext) :
    ((step.occurrences c).map Occurrence.origin).Nodup := by
  rw [PathStep.occurrences, List.map_map]
  set texts := (step.survivors c).filterMap PathItem.text?
  have hnumbers : texts.zipIdx.map (fun (_, number) => (c.element.path, number)) =
      (texts.zipIdx.map (·.2)).map (c.element.path, ·) := by
    rw [List.map_map]
    rfl
  have hrange : (texts.zipIdx.map (·.2)).Nodup := by
    rw [List.zipIdx_map_snd]
    exact List.nodup_range'
  change (texts.zipIdx.map fun (_, number) => (c.element.path, number)).Nodup
  rw [hnumbers]
  exact hrange.map fun i j hij => (Prod.mk.inj hij).2

/-- No text belongs to a document. -/
theorem occurrences_of_isDocument (h : c.isDocument = true) : step.occurrences c = [] := by
  have hcandidates : (step.test.candidates c).filterMap PathItem.text? = [] := by
    rw [List.filterMap_eq_nil_iff]
    intro item hitem
    cases item with
    | node d => rfl
    | text content =>
        exfalso
        cases htest : step.test <;> simp [htest, NodeTest.candidates, h] at hitem
  have hkept : (step.survivors c).filterMap PathItem.text? = [] := by
    have hsublist := (step.survivors_sublist c).filterMap PathItem.text?
    rw [hcandidates] at hsublist
    exact List.sublist_nil.mp hsublist
  rw [PathStep.occurrences, hkept]
  rfl

/-- Contexts share no text unless they are the same element. -/
theorem disjoint_origins (h : c.isDocument = d.isDocument → c.element.path ≠ d.element.path) :
    List.Disjoint ((step.occurrences c).map Occurrence.origin)
      ((step.occurrences d).map Occurrence.origin) := by
  intro origin hc hd
  cases hcdocument : c.isDocument with
  | true =>
      rw [occurrences_of_isDocument hcdocument] at hc
      contradiction
  | false =>
      cases hddocument : d.isDocument with
      | true =>
          rw [occurrences_of_isDocument hddocument] at hd
          contradiction
      | false =>
          refine h (hcdocument.trans hddocument.symm) ?_
          rw [← path_of_mem_origins hc, ← path_of_mem_origins hd]

theorem disjoint_origins_of_key_ne (h : c.key ≠ d.key) :
    List.Disjoint ((step.occurrences c).map Occurrence.origin)
      ((step.occurrences d).map Occurrence.origin) := by
  refine disjoint_origins fun hflag hpath => h ?_
  simp [PathContext.key, hflag, hpath]

/-- A step takes each text once when it shares none between two contexts. -/
theorem eachOnce_flatMap_iff (step : PathStep) (contexts : List PathContext) :
    EachOnce (contexts.flatMap step.occurrences) ↔
      contexts.Pairwise fun c d => List.Disjoint ((step.occurrences c).map Occurrence.origin)
        ((step.occurrences d).map Occurrence.origin) := by
  rw [EachOnce, List.map_flatMap, List.nodup_flatMap]
  exact ⟨fun h => h.2, fun h => ⟨fun c _ => nodup_origins step c, h⟩⟩

end Origins

/-! ## Overlap -/

/-- The contexts before a step have different keys. -/
theorem itemContexts_found_pairwise (path : LocationPath) (element : Place) :
    (itemContexts (path.found element)).Pairwise fun c d => c.key ≠ d.key := by
  refine LocationPath.found_induction
    (fun items => (itemContexts items).Pairwise fun c d => c.key ≠ d.key)
    List.Pairwise.nil (List.pairwise_singleton _ (path.start element)) ?_
  intro step _ items next hnext _
  obtain ⟨-, rfl⟩ := PathStep.apply_eq_some_iff.mp hnext
  exact itemContexts_keepFirst_pairwise ∅ _

theorem element_mem_of_spans {c x : PathContext} (h : c.Spans x) :
    x.element ∈ c.element :: c.element.elementsBelow := by
  cases h with
  | self => exact List.mem_cons_self
  | outermost => exact List.mem_cons_self
  | inside hq helement =>
      exact List.mem_cons_of_mem _ (Place.mem_elementsBelow_iff.mpr ⟨hq, helement⟩)

/-- Within one context a descending step takes each text once. -/
theorem withDescendants_pairwise (step : PathStep) (c : PathContext) :
    c.withDescendants.Pairwise fun x y =>
      List.Disjoint ((step.occurrences x).map Occurrence.origin)
        ((step.occurrences y).map Occurrence.origin) := by
  have hinside : ((c.element :: c.element.elementsBelow).map (PathContext.mk false)).Pairwise
      fun x y => List.Disjoint ((step.occurrences x).map Occurrence.origin)
        ((step.occurrences y).map Occurrence.origin) := by
    rw [List.pairwise_map]
    refine (Place.cons_elementsBelow_pairwise c.element).imp ?_
    intro p q hbefore
    exact disjoint_origins fun _ => hbefore.path_ne
  rw [PathContext.withDescendants]
  split
  · rename_i hdocument
    refine List.pairwise_cons.mpr ⟨?_, hinside⟩
    intro y _ origin horigin
    rw [occurrences_of_isDocument hdocument] at horigin
    contradiction
  · exact hinside

/-- A descending step takes each text once when no element that two of its
contexts span has any. -/
theorem eachOnce_withDescendants_iff {tree : Node} {contexts : List PathContext}
    (h : ∀ c ∈ contexts, c.element.Within tree) (step : PathStep) :
    EachOnce ((contexts.flatMap (·.withDescendants)).flatMap step.occurrences) ↔
      contexts.Pairwise fun c d => ∀ x, c.Spans x → d.Spans x → step.occurrences x = [] := by
  rw [eachOnce_flatMap_iff, List.pairwise_flatMap]
  have hwithin (c : PathContext) (_ : c ∈ contexts) := withDescendants_pairwise step c
  constructor
  · rintro ⟨-, hacross⟩
    refine hacross.imp ?_
    intro c d hcd x hcx hdx
    have hself := hcd x (mem_withDescendants_iff.mpr hcx) x (mem_withDescendants_iff.mpr hdx)
    have hnil : (step.occurrences x).map Occurrence.origin = [] :=
      List.eq_nil_iff_forall_not_mem.mpr fun _ horigin => hself horigin horigin
    exact List.map_eq_nil_iff.mp hnil
  · intro hshared
    refine ⟨hwithin, hshared.imp_of_mem ?_⟩
    intro c d hc hd hcd x hx y hy
    have hcx := mem_withDescendants_iff.mp hx
    have hdy := mem_withDescendants_iff.mp hy
    by_cases hkey : x.key = y.key
    · obtain rfl := eq_of_key_eq (hcx.within (h c hc)) (hdy.within (h d hd)) hkey
      rw [hcd x hcx hdy]
      exact List.disjoint_nil_left _
    · exact disjoint_origins_of_key_ne hkey

/-- Contexts of one level share only the document, which has no text. -/
theorem Level.shared_eq_nil {contexts : List PathContext} (h : Level contexts) (step : PathStep) :
    contexts.Pairwise fun c d => ∀ x, c.Spans x → d.Spans x → step.occurrences x = [] := by
  obtain ⟨-, hacross⟩ := List.pairwise_flatMap.mp (inDocumentOrder_flatMap_elementsBelow h)
  refine hacross.imp ?_
  intro c d hcd x hcx hdx
  exact absurd rfl (hcd _ (element_mem_of_spans hcx) _ (element_mem_of_spans hdx)).path_ne

/-- The contexts before the last step are within the tree. -/
theorem within_of_mem_found {tree : Node} {element : Place} (h : element.Within tree)
    (path : LocationPath) : ∀ c ∈ itemContexts (path.found element), c.element.Within tree := by
  intro c hc
  rw [LocationPath.found] at hc
  cases hevaluate : path.evaluate element with
  | none => rw [hevaluate] at hc; contradiction
  | some found =>
      rw [hevaluate, Option.getD_some, mem_itemContexts] at hc
      have hchain := (LocationPath.node_mem_evaluate_iff h hevaluate).mp hc
      exact hchain.within (within_start path h)

/-- A step that does not descend takes each text once. -/
theorem eachOnce_of_direct {last : PathStep} (h : last.descendant = false) (path : LocationPath)
    (element : Place) :
    EachOnce ((last.contexts (path.found element)).flatMap last.occurrences) := by
  rw [PathStep.contexts_of_direct h, eachOnce_flatMap_iff]
  exact (itemContexts_found_pairwise path element).imp disjoint_origins_of_key_ne

/-- **Texts of a path.**  The texts that a path finds in a tree, if it has an
answer, are those that its last step takes.  It takes each once when it does not
descend, and when no step before it does; where it descends it takes each once
exactly when no element that two of its contexts span has any. -/
theorem eachOnce_occurrences_iff {tree : Node} {element : Place} (h : element.Within tree)
    (path : LocationPath) :
    ((path.evaluate element).isSome = true →
      path.texts element = (path.occurrences element).map Occurrence.content) ∧
    ∀ before last, path.steps = before ++ [last] →
      (last.descendant = false → EachOnce (path.occurrences element)) ∧
      ((∀ s ∈ before, s.descendant = false) → EachOnce (path.occurrences element)) ∧
      (last.descendant = true →
        (EachOnce (path.occurrences element) ↔
          (itemContexts (LocationPath.found ⟨path.absolute, before⟩ element)).Pairwise
            fun c d => ∀ x, c.Spans x → d.Spans x → last.occurrences x = [])) := by
  refine ⟨LocationPath.texts_eq, ?_⟩
  intro before last hsteps
  rw [path.occurrences_eq hsteps]
  have hdirect (hlast : last.descendant = false) :=
    eachOnce_of_direct hlast ⟨path.absolute, before⟩ element
  have hdescending (hlast : last.descendant = true) := by
    have hiff := eachOnce_withDescendants_iff
      (within_of_mem_found h ⟨path.absolute, before⟩) last
    rwa [← PathStep.contexts_of_descendant hlast] at hiff
  refine ⟨hdirect, ?_, hdescending⟩
  intro hbefore
  cases hlast : last.descendant with
  | false => exact hdirect hlast
  | true =>
      have hlevel : Level (itemContexts
          (LocationPath.found ⟨path.absolute, before⟩ element)) := level_found hbefore element
      exact (hdescending hlast).mpr (hlevel.shared_eq_nil last)

/-- A body with a division in a division, around a text. -/
def nestedDivisions : Node :=
  .element ⟨.html, "body", []⟩
    [.element ⟨.html, "div", []⟩ [.element ⟨.html, "div", []⟩ [.text "x"]]]

/-- The path `//text()`. -/
def everyText : LocationPath := ⟨true, [⟨true, .text, []⟩]⟩

/-- Of nested divisions every text is found once. -/
theorem eachOnce_everyText :
    (Place.root nestedDivisions).Within nestedDivisions ∧
      EachOnce (everyText.occurrences (Place.root nestedDivisions)) := by
  have hroot : (Place.root nestedDivisions).Within nestedDivisions := .root
  obtain ⟨-, hlast⟩ := eachOnce_occurrences_iff hroot everyText
  obtain ⟨-, hbefore, -⟩ := hlast [] ⟨true, .text, []⟩ rfl
  exact ⟨hroot, hbefore (by simp)⟩

/-- Items with different keys are all kept. -/
theorem keepFirst_eq_self {keys : Std.HashSet (Bool × List Nat)} {items : List PathItem}
    (h : (itemContexts items).Pairwise fun c d => c.key ≠ d.key)
    (hkeys : ∀ c ∈ itemContexts items, c.key ∉ keys) : keepFirst keys items = items := by
  induction items generalizing keys with
  | nil => rfl
  | cons item items ih =>
      cases item with
      | text content => rw [keepFirst, ih h hkeys]
      | node c =>
          obtain ⟨hc, hrest⟩ := List.pairwise_cons.mp h
          rw [keepFirst, if_neg (hkeys c List.mem_cons_self), ih hrest]
          intro d hd hmem
          rcases Std.HashSet.mem_insert.mp hmem with heq | hseen
          · exact hc d hd (beq_iff_eq.mp heq)
          · exact hkeys d (List.mem_cons_of_mem _ hd) hseen

/-- The path `//div`. -/
def everyDivision : LocationPath := ⟨true, [⟨true, .name "div", []⟩]⟩

/-- The path `//div//text()`. -/
def everyDivisionText : LocationPath := ⟨true, [⟨true, .name "div", []⟩, ⟨true, .text, []⟩]⟩

theorem found_everyDivision :
    everyDivision.found (Place.root nestedDivisions) =
      ((PathStep.contexts ⟨true, .name "div", []⟩
        [.node ⟨true, Place.root nestedDivisions⟩]).flatMap
          (PathStep.survivors ⟨true, .name "div", []⟩)) := by
  have hsteps : everyDivision.steps = [] ++ [⟨true, .name "div", []⟩] := rfl
  have hsome : (everyDivision.evaluate (Place.root nestedDivisions)).isSome = true :=
    LocationPath.isSome_evaluate (by simp [everyDivision]) _
  have hbefore : LocationPath.found ⟨everyDivision.absolute, []⟩ (Place.root nestedDivisions) =
      [.node ⟨true, Place.root nestedDivisions⟩] := rfl
  rw [LocationPath.found_concat hsteps hsome, hbefore]
  -- The set itself does not compute here, the keys do.
  refine keepFirst_eq_self ?_ (by simp)
  decide +kernel

theorem occurrences_everyDivisionText :
    (everyDivisionText.occurrences (Place.root nestedDivisions)).map Occurrence.origin =
        [([0, 0], 0), ([0, 0], 0)] ∧
      (everyDivisionText.occurrences (Place.root nestedDivisions)).map Occurrence.content =
        ["x", "x"] := by
  have hsteps : everyDivisionText.steps = everyDivision.steps ++ [⟨true, .text, []⟩] := rfl
  have hbefore : (⟨everyDivisionText.absolute, everyDivision.steps⟩ : LocationPath) =
      everyDivision := rfl
  rw [LocationPath.occurrences_eq hsteps, hbefore, found_everyDivision]
  decide +kernel

/-- A text in two divisions is found once from each. -/
theorem not_eachOnce_everyDivisionText :
    ∃ results, evaluatePath (Place.root nestedDivisions) "//div//text()".toList = .ok results ∧
      results.filterMap PathResult.text? = ["x", "x"] ∧
      results.filterMap PathResult.text? =
        (everyDivisionText.occurrences (Place.root nestedDivisions)).map Occurrence.content ∧
      ¬EachOnce (everyDivisionText.occurrences (Place.root nestedDivisions)) := by
  have hread : (LocationPath.read (Text.trim "//div//text()".toList)).toOption =
      some everyDivisionText := by decide +kernel
  have hsome : (everyDivisionText.evaluate (Place.root nestedDivisions)).isSome = true :=
    LocationPath.isSome_evaluate (by simp [everyDivisionText]) _
  have hresults := evaluatePath_of_isSome (by decide +kernel) hread hsome
  have htexts := LocationPath.texts_eq hsome
  obtain ⟨horigins, hcontents⟩ := occurrences_everyDivisionText
  refine ⟨_, hresults, htexts.trans hcontents, htexts, ?_⟩
  rw [EachOnce, horigins]
  simp

end Folio.Rule
