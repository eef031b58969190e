import Folio.Proofs.Markup.Tree
import Folio.Proofs.Rule.DocumentOrder
import Folio.Proofs.Selector.Scope
import Folio.Rule.Step
import Mathlib.Data.List.Induction

/-!
# Folio.Proofs.Rule.Cascade

The order of the elements that a cascade finds.  A step lists what it finds
inside one element after what it finds inside the elements before it, and drops
nothing.  Where one of these lies inside another, what a selector finds inside
the inner one is found twice and out of order, and there is no other way out of
order: a cascade of selectors is in document order exactly when it finds nothing
twice (`inDocumentOrder_foundBy_iff`).  Children of elements apart are apart
again, so that a cascade is in order, however it ends, when all steps before its
last go to children (`inDocumentOrder_of_takesChildren`).
-/

namespace Folio.Rule

open Folio.Text Folio.Markup Folio.Selector

/-! ## Steps -/

/-- The step has no index suffix. -/
def HasNoIndex (raw : List Char) : Prop := ∃ base, splitIndex (trim raw) = .ok (base, none)

/-- What a step without index suffix finds inside a place; nothing when it cannot be read. -/
def stepPlaces (raw : List Char) (c : Place) : List Place :=
  match Step.read raw with
  | .ok step => step.selection.inside c
  | .error _ => []

/-- The step goes to the children. -/
def TakesChildren (raw : List Char) : Prop := ∃ index, Step.read raw = .ok ⟨.children, index⟩

/-- The selection takes what is inside an element by properties in which that element has
no part. -/
def Selection.isScopeFree : Selection → Bool
  | .children => false
  | .matching selector => !anyNamesScope selector
  | .ownTextContains _ => true

/-- The step is a selector without `:scope`, or asks for a text. -/
def SelectsBelow (raw : List Char) : Prop :=
  ∃ step, Step.read raw = .ok step ∧ step.selection.isScopeFree = true

variable {raw : List Char} {c d x y : Place}

theorem stepPlaces_of_read {step : Step} (h : Step.read raw = .ok step) :
    stepPlaces raw = step.selection.inside := by
  funext c
  rw [stepPlaces, h]

/-- A step that takes children takes the child elements. -/
theorem stepPlaces_of_takesChildren (h : TakesChildren raw) (c : Place) :
    stepPlaces raw c = c.childElements := by
  obtain ⟨index, hread⟩ := h
  rw [stepPlaces_of_read hread]
  rfl

/-- A selector takes the elements inside a place that have a property, whatever the place
is. -/
theorem exists_filter_of_selectsBelow (h : SelectsBelow raw) :
    ∃ p : Place → Bool, ∀ c, stepPlaces raw c = c.elementsBelow.filter p := by
  obtain ⟨⟨selection, index⟩, hread, hfree⟩ := h
  simp only [stepPlaces, hread]
  cases selection with
  | children => contradiction
  | matching selector =>
      refine ⟨fun p => anyHolds selector ⟨p, none⟩ p, fun c => ?_⟩
      have hnames : anyNamesScope selector = false := by simpa [Selection.isScopeFree] using hfree
      refine List.filter_congr fun p _ => ?_
      exact anyHolds_congr c p selector hnames none p
  | ownTextContains needle => exact ⟨_, fun c => rfl⟩

/-- The elements below a place are in document order. -/
theorem inDocumentOrder_elementsBelow (c : Place) : InDocumentOrder c.elementsBelow :=
  c.below_pairwise.sublist List.filter_sublist

/-- What a step finds inside a place is in document order. -/
theorem inDocumentOrder_stepPlaces (raw : List Char) (c : Place) :
    InDocumentOrder (stepPlaces raw c) := by
  rw [stepPlaces]
  cases Step.read raw with
  | error failure => exact List.Pairwise.nil
  | ok step =>
      simp only [Selection.inside]
      split
      · exact c.childElements_pairwise
      · exact (inDocumentOrder_elementsBelow c).sublist List.filter_sublist
      · exact (inDocumentOrder_elementsBelow c).sublist List.filter_sublist

/-- What a step finds lies inside the place. -/
theorem encloses_of_mem_stepPlaces (h : x ∈ stepPlaces raw c) : c.Encloses x := by
  have hbelow (h : x ∈ c.elementsBelow) : c.Encloses x := (Place.mem_elementsBelow_iff.mp h).1
  rw [stepPlaces] at h
  split at h
  · simp only [Selection.inside] at h
    split at h
    · exact .child (List.mem_filter.mp h).1
    · exact hbelow (List.mem_filter.mp h).1
    · exact hbelow (List.mem_filter.mp h).1
  · cases h

/-! ## Cascades -/

/-- What steps without index suffix find, one after the other. -/
def foundBy : List (List Char) → Place → List Place
  | [], c => [c]
  | raw :: rest, c => (stepPlaces raw c).flatMap (foundBy rest)

/-- The last step is applied to what the others find. -/
@[simp] theorem foundBy_append_singleton (before : List (List Char)) (last : List Char)
    (c : Place) :
    foundBy (before ++ [last]) c = (foundBy before c).flatMap (stepPlaces last) := by
  induction before generalizing c with
  | nil => simp [foundBy]
  | cons raw before ih =>
      rw [List.cons_append, foundBy, foundBy, List.flatMap_assoc, funext ih]

theorem index_of_read (h : HasNoIndex raw) {step : Step} (hread : Step.read raw = .ok step) :
    step.index = none := by
  obtain ⟨base, hsplit⟩ := h
  simp only [Step.read, hsplit, bind, Except.bind] at hread
  split at hread
  · cases hread
  · cases hread
    rfl

/-- A cascade finds what its steps find, and stops early only where nothing can follow. -/
theorem eq_flatMap_of_runCascade {steps : List (List Char)}
    (hindex : ∀ raw ∈ steps, HasNoIndex raw) {current places : List Place}
    (h : runCascade current steps = .ok places) : places = current.flatMap (foundBy steps) := by
  induction steps generalizing current with
  | nil =>
      cases h
      exact (List.flatMap_singleton' _).symm
  | cons raw rest ih =>
      obtain ⟨hraw, hrest⟩ := List.forall_mem_cons.mp hindex
      rw [runCascade] at h
      split at h
      · cases h
      · next step hread =>
        have hnext : step.apply current = current.flatMap (stepPlaces raw) := by
          simp only [Step.apply, index_of_read hraw hread, applyIndex, stepPlaces_of_read hread]
        have hfound : current.flatMap (foundBy (raw :: rest)) =
            (step.apply current).flatMap (foundBy rest) := by
          rw [hnext, List.flatMap_assoc]
          rfl
        rw [hfound]
        dsimp only at h
        split at h
        · next hempty =>
          cases h
          rw [List.isEmpty_iff.mp hempty]
          rfl
        · exact ih hrest h

/-- A cascade without indexes finds what its steps find one after the other. -/
theorem eq_foundBy_of_selectCascade {root : Place} {steps : List (List Char)}
    (hindex : ∀ raw ∈ steps, HasNoIndex raw) {places : List Place}
    (h : selectCascade root steps = .ok places) : places = foundBy steps root := by
  rw [eq_flatMap_of_runCascade hindex h, List.flatMap_singleton]

/-- What steps find lies inside the place, or is the place itself where there is no step. -/
theorem mem_foundBy {steps : List (List Char)} (h : x ∈ foundBy steps c) :
    x = c ∨ c.Encloses x := by
  induction steps generalizing c with
  | nil => exact Or.inl (List.mem_singleton.mp h)
  | cons raw rest ih =>
      obtain ⟨d, hd, hx⟩ := List.mem_flatMap.mp h
      have houter := encloses_of_mem_stepPlaces hd
      rcases ih hx with rfl | hinner
      · exact Or.inr houter
      · exact Or.inr (houter.trans hinner)

/-! ## Order -/

/-- The order of what a step finds inside several places. -/
theorem inDocumentOrder_flatMap_stepPlaces_iff {contexts : List Place} :
    InDocumentOrder (contexts.flatMap (stepPlaces raw)) ↔
      contexts.Pairwise fun c d => ∀ x ∈ stepPlaces raw c, ∀ y ∈ stepPlaces raw d, x.Before y := by
  rw [InDocumentOrder, List.pairwise_flatMap]
  exact and_iff_right fun c _ => inDocumentOrder_stepPlaces raw c

/-- Places apart: each with all that is inside it comes before the next. -/
def Apart (places : List Place) : Prop := places.Pairwise Place.Precedes

/-- Child elements lie apart. -/
theorem apart_childElements (c : Place) : Apart c.childElements := by
  refine c.childElements_pairwise.imp_of_mem fun {x y} hx hy hbefore => ?_
  rcases hbefore.isInside_or_precedes with ⟨k, rest, hinside⟩ | hprecedes
  · -- siblings stand equally deep
    obtain ⟨i, hi⟩ := position_of_mem_childElements hx
    obtain ⟨j, hj⟩ := position_of_mem_childElements hy
    have hlength := congrArg List.length hinside
    rw [hi, hj] at hlength
    simp only [List.length_append, List.length_cons, List.length_nil] at hlength
    omega
  · exact hprecedes

/-- Children of places apart are apart. -/
theorem Apart.flatMap_childElements {places : List Place} (h : Apart places) :
    Apart (places.flatMap Place.childElements) := by
  rw [Apart, List.pairwise_flatMap]
  refine ⟨fun c _ => apart_childElements c, h.imp fun {c d} hprecedes x hx y hy => ?_⟩
  obtain ⟨i, hi⟩ := position_of_mem_childElements hx
  obtain ⟨j, hj⟩ := position_of_mem_childElements hy
  exact hprecedes.append hi hj

/-- So does what steps find that take children, by induction on the steps. -/
theorem apart_foundBy {steps : List (List Char)} (h : ∀ raw ∈ steps, TakesChildren raw)
    (c : Place) : Apart (foundBy steps c) := by
  induction steps using List.reverseRecOn with
  | nil => exact List.pairwise_singleton _ c
  | append_singleton before last ih =>
      have hbefore : ∀ raw ∈ before, TakesChildren raw :=
        fun raw hraw => h raw (List.mem_append_left _ hraw)
      have hlast : stepPlaces last = Place.childElements :=
        funext (stepPlaces_of_takesChildren (h last (List.mem_append_right _ (by simp))))
      rw [foundBy_append_singleton, hlast]
      exact (ih hbefore).flatMap_childElements

/-- **Order after children.**  A step finds its elements in document order inside what steps
to children lead to. -/
theorem inDocumentOrder_of_takesChildren {before : List (List Char)}
    (h : ∀ raw ∈ before, TakesChildren raw) (last : List Char) (c : Place) :
    InDocumentOrder (foundBy (before ++ [last]) c) := by
  rw [foundBy_append_singleton, inDocumentOrder_flatMap_stepPlaces_iff]
  refine (apart_foundBy h c).imp fun {d e} hprecedes x hx y hy => ?_
  exact hprecedes.before_of_encloses (Or.inr (encloses_of_mem_stepPlaces hx))
    (Or.inr (encloses_of_mem_stepPlaces hy))

/-! ## Selectors -/

/-- What a selector finds inside an element, it finds inside every element around that. -/
theorem stepPlaces_subset_of_encloses (h : SelectsBelow raw) (hd : c.Encloses d) :
    stepPlaces raw d ⊆ stepPlaces raw c := by
  obtain ⟨p, hp⟩ := exists_filter_of_selectsBelow h
  rw [hp, hp]
  intro x hx
  obtain ⟨hx, hholds⟩ := List.mem_filter.mp hx
  obtain ⟨hinner, helement⟩ := Place.mem_elementsBelow_iff.mp hx
  exact List.mem_filter.mpr ⟨Place.mem_elementsBelow_iff.mpr ⟨hd.trans hinner, helement⟩, hholds⟩

/-- **Order of selectors.**  A cascade of selectors finds its elements in document order
exactly when it finds each of them once: what is out of order lies inside two elements
that an earlier step has found, one inside the other, and is found inside both. -/
theorem inDocumentOrder_foundBy_iff {steps : List (List Char)}
    (h : ∀ raw ∈ steps, SelectsBelow raw) (c : Place) :
    InDocumentOrder (foundBy steps c) ↔ (foundBy steps c).Pairwise fun x y => x.path ≠ y.path := by
  refine ⟨fun hsorted => hsorted.imp Place.Before.path_ne, fun hdistinct => ?_⟩
  induction steps generalizing c with
  | nil => exact List.pairwise_singleton _ c
  | cons raw rest ih =>
      obtain ⟨hraw, hrest⟩ := List.forall_mem_cons.mp h
      rw [foundBy, List.pairwise_flatMap] at hdistinct
      obtain ⟨hwithin, hacross⟩ := hdistinct
      rw [foundBy, InDocumentOrder, List.pairwise_flatMap]
      refine ⟨fun d hd => ih hrest d (hwithin d hd), ?_⟩
      have hsorted := inDocumentOrder_stepPlaces raw c
      refine (hsorted.and hacross).imp_of_mem fun {d e} hd he hboth x hx y hy => ?_
      obtain ⟨hbefore, hdifferent⟩ := hboth
      rcases hbefore.isInside_or_precedes with hinside | hprecedes
      · have hencloses : d.Encloses e := Place.encloses_of_isInside
          (encloses_of_mem_stepPlaces hd) (encloses_of_mem_stepPlaces he) hinside
        cases rest with
        | nil =>
            rw [List.mem_singleton.mp hx, List.mem_singleton.mp hy]
            exact hbefore
        | cons next rest =>
            -- whatever is found inside the inner element is found inside the outer one
            obtain ⟨z, hz, hy'⟩ := List.mem_flatMap.mp hy
            have hnext := hrest next List.mem_cons_self
            have hfound : y ∈ foundBy (next :: rest) d :=
              List.mem_flatMap.mpr ⟨z, stepPlaces_subset_of_encloses hnext hencloses hz, hy'⟩
            exact absurd rfl (hdifferent y hfound y hy)
      · exact hprecedes.before_of_encloses (mem_foundBy hx) (mem_foundBy hy)

/-- Inside elements in document order, a selector finds elements in document order exactly
when it finds none inside an element that lies inside another. -/
theorem inDocumentOrder_flatMap_selectsBelow_iff {root : Place} {contexts : List Place}
    (h : InDocumentOrder contexts) (hroot : ∀ c ∈ contexts, c = root ∨ root.Encloses c)
    (hraw : SelectsBelow raw) :
    InDocumentOrder (contexts.flatMap (stepPlaces raw)) ↔
      ∀ c ∈ contexts, ∀ d ∈ contexts, d.IsInside c → stepPlaces raw d = [] := by
  rw [inDocumentOrder_flatMap_stepPlaces_iff]
  have hencloses {c d : Place} (hc : c ∈ contexts) (hd : d ∈ contexts) (hinside : d.IsInside c) :
      c.Encloses d := by
    rcases hroot d hd with rfl | hd
    · rcases hroot c hc with rfl | hc
      · exact absurd rfl hinside.before.path_ne
      · exact absurd hinside.before (Place.isInside_of_encloses hc).before.asymm
    · rcases hroot c hc with rfl | hc
      · exact hd
      · exact Place.encloses_of_isInside hc hd hinside
  constructor
  · intro hsorted c hc d hd hinside
    rw [List.eq_nil_iff_forall_not_mem]
    intro x hx
    have hpair := of_pairwise_of_before h hsorted hc hd hinside.before
    have hx' := stepPlaces_subset_of_encloses hraw (hencloses hc hd hinside) hx
    exact (hpair x hx' x hx).path_ne rfl
  · intro hnothing
    refine h.imp_of_mem fun {c d} hc hd hbefore x hx y hy => ?_
    rcases hbefore.isInside_or_precedes with hinside | hprecedes
    · rw [hnothing c hc d hd hinside] at hy
      cases hy
    · exact hprecedes.before_of_encloses (Or.inr (encloses_of_mem_stepPlaces hx))
        (Or.inr (encloses_of_mem_stepPlaces hy))

/-- **Order of a cascade.**  Let a cascade without index suffixes find elements by its last
step inside those that the steps before find.  They are in document order, and so each of
them is found once,

* exactly when what the last step finds inside one of these comes before all that it finds
  inside the later ones;
* whenever the steps before the last go to children;
* where all steps are selectors, exactly when each of them is found once;
* behind elements in document order, for a selector exactly when it finds nothing inside an
  element that lies inside another, and for children, of which each is found once, exactly
  when none of them lies inside an earlier sibling of another. -/
theorem inDocumentOrder_selectCascade_iff {root : Place} {before : List (List Char)}
    {last : List Char} {contexts places : List Place}
    (hindex : ∀ raw ∈ before ++ [last], HasNoIndex raw)
    (hcontexts : selectCascade root before = .ok contexts)
    (hplaces : selectCascade root (before ++ [last]) = .ok places) :
    (InDocumentOrder places ↔
      contexts.Pairwise fun c d =>
        ∀ x ∈ stepPlaces last c, ∀ y ∈ stepPlaces last d, x.Before y) ∧
    ((∀ raw ∈ before, TakesChildren raw) → InDocumentOrder places) ∧
    ((∀ raw ∈ before ++ [last], SelectsBelow raw) →
      (InDocumentOrder places ↔ places.Pairwise fun x y => x.path ≠ y.path)) ∧
    (InDocumentOrder contexts →
      (SelectsBelow last → (InDocumentOrder places ↔
        ∀ c ∈ contexts, ∀ d ∈ contexts, d.IsInside c → stepPlaces last d = [])) ∧
      (TakesChildren last → places.Pairwise (fun x y => x.path ≠ y.path) ∧
        (InDocumentOrder places ↔
          ∀ x ∈ places, ∀ y ∈ places, ¬y.IsInsideEarlierSibling x))) := by
  have hbefore : ∀ raw ∈ before, HasNoIndex raw :=
    fun raw hraw => hindex raw (List.mem_append_left _ hraw)
  obtain rfl := eq_foundBy_of_selectCascade hbefore hcontexts
  obtain rfl := eq_foundBy_of_selectCascade hindex hplaces
  refine ⟨?_, fun h => inDocumentOrder_of_takesChildren h last root,
    fun h => inDocumentOrder_foundBy_iff h root, fun hsorted => ⟨fun h => ?_, fun h => ?_⟩⟩
  · rw [foundBy_append_singleton]
    exact inDocumentOrder_flatMap_stepPlaces_iff
  · rw [foundBy_append_singleton]
    exact inDocumentOrder_flatMap_selectsBelow_iff hsorted (fun c hc => mem_foundBy hc) h
  · have hsublist : ∀ c ∈ foundBy before root,
        (stepPlaces last c).Sublist c.childElements := by
      intro c _
      rw [stepPlaces_of_takesChildren h]
    rw [foundBy_append_singleton]
    exact ⟨flatMap_pairwise_path hsorted hsublist, inDocumentOrder_flatMap_iff hsorted hsublist⟩

theorem hasNoIndex_paragraphSteps :
    ∀ raw ∈ ["tag.div".toList] ++ ["tag.p".toList], HasNoIndex raw := by
  refine List.forall_mem_cons.mpr ⟨⟨"tag.div".toList, by decide +kernel⟩, ?_⟩
  exact List.forall_mem_singleton.mpr ⟨"tag.p".toList, by decide +kernel⟩

/-- The places that a cascade finds, by their paths. -/
theorem exists_of_map_path {root : Place} {steps : List (List Char)} {paths : List (List Nat)}
    (h : (selectCascade root steps).toOption.map (List.map Place.path) = some paths) :
    ∃ places, selectCascade root steps = .ok places ∧ places.map Place.path = paths := by
  cases hplaces : selectCascade root steps with
  | error failure =>
      rw [hplaces] at h
      cases h
  | ok places =>
      rw [hplaces] at h
      exact ⟨places, rfl, Option.some.inj h⟩

/-- The paragraphs of divisions that are apart. -/
theorem inDocumentOrder_dividedParagraphs :
    (∀ raw ∈ ["tag.div".toList] ++ ["tag.p".toList], HasNoIndex raw) ∧
      ∃ contexts places,
        selectCascade (Place.root dividedBody) ["tag.div".toList] = .ok contexts ∧
        selectCascade (Place.root dividedBody) (["tag.div".toList] ++ ["tag.p".toList]) =
          .ok places ∧
        places.map Place.path = [[0, 0]] ∧ InDocumentOrder places := by
  obtain ⟨contexts, hcontexts, hpaths⟩ : ∃ contexts,
      selectCascade (Place.root dividedBody) ["tag.div".toList] = .ok contexts ∧
        contexts.map Place.path = [[0]] := exists_of_map_path (by decide +kernel)
  obtain ⟨places, hplaces, hfound⟩ : ∃ places,
      selectCascade (Place.root dividedBody) (["tag.div".toList] ++ ["tag.p".toList]) =
        .ok places ∧ places.map Place.path = [[0, 0]] := exists_of_map_path (by decide +kernel)
  obtain ⟨division, rfl, -⟩ := List.map_eq_singleton_iff.mp hpaths
  obtain ⟨hiff, -⟩ :=
    inDocumentOrder_selectCascade_iff hasNoIndex_paragraphSteps hcontexts hplaces
  exact ⟨hasNoIndex_paragraphSteps, _, places, hcontexts, hplaces, hfound,
    hiff.mpr (List.pairwise_singleton _ division)⟩

/-- A paragraph inside two divisions, one inside the other. -/
def nestedParagraph : Node :=
  .element ⟨.html, "body", []⟩
    [.element ⟨.html, "div", []⟩ [.element ⟨.html, "div", []⟩ [paragraph "x"]]]

/-- The paragraph is found in each of the divisions. -/
theorem not_inDocumentOrder_nestedParagraph :
    (∀ raw ∈ ["tag.div".toList] ++ ["tag.p".toList], HasNoIndex raw) ∧
      ∃ places,
        selectCascade (Place.root nestedParagraph) (["tag.div".toList] ++ ["tag.p".toList]) =
          .ok places ∧
        places.map Place.path = [[0, 0, 0], [0, 0, 0]] ∧
        ¬places.Pairwise (fun x y => x.path ≠ y.path) ∧ ¬InDocumentOrder places := by
  obtain ⟨places, hplaces, hfound⟩ : ∃ places,
      selectCascade (Place.root nestedParagraph) (["tag.div".toList] ++ ["tag.p".toList]) =
        .ok places ∧ places.map Place.path = [[0, 0, 0], [0, 0, 0]] :=
    exists_of_map_path (by decide +kernel)
  have htwice : ¬places.Pairwise fun x y => x.path ≠ y.path := by
    rw [← List.pairwise_map (R := fun x y => x ≠ y), hfound]
    decide
  exact ⟨hasNoIndex_paragraphSteps, places, hplaces, hfound, htwice,
    fun hsorted => htwice (hsorted.imp Place.Before.path_ne)⟩

end Folio.Rule
