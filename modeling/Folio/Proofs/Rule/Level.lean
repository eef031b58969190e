import Folio.Proofs.Rule.LocationPath

/-!
# Folio.Proofs.Rule.Level

Paths whose steps only go to children, to parents or nowhere.  What such a step
reaches from contexts of one level is of one level again: all contexts stand
equally deep, with elements at the same places above them, so that they part
from one another before any of them ends.  Contexts of one level in document
order therefore reach contexts in document order.
-/

namespace Folio.Rule

open Folio.Markup

/-! ## Outermost elements -/

/-- The outlines of the elements along a trail, given which of its nodes are
elements. -/
def elementOutlines : List Bool → List (List Bool)
  | [] => []
  | b :: rest => if b then (b :: rest) :: elementOutlines rest else elementOutlines rest

theorem map_outline_go (trail : List Descent) :
    (outermostElement.go trail).map Place.outline =
      elementOutlines (trail.map (·.parent.isElement)) := by
  induction trail with
  | nil => rfl
  | cons d rest ih =>
      rw [outermostElement.go, List.map_cons, elementOutlines]
      cases hflag : d.parent.isElement with
      | true => simp [Place.outline, Place.isElement, hflag, ih]
      | false => simp [ih]

/-- Only elements above are gone through. -/
theorem of_mem_go {trail : List Descent} {p : Place} (h : p ∈ outermostElement.go trail) :
    p.isElement = true ∧ p.trail <:+ trail := by
  induction trail with
  | nil => simp [outermostElement.go] at h
  | cons d rest ih =>
      rw [outermostElement.go] at h
      split at h
      · rename_i hflag
        rcases List.mem_cons.mp h with rfl | h
        · exact ⟨hflag, List.suffix_cons d rest⟩
        · exact ⟨(ih h).1, (ih h).2.trans (List.suffix_cons d rest)⟩
      · exact ⟨(ih h).1, (ih h).2.trans (List.suffix_cons d rest)⟩

/-- The outermost element is found along the trail, or is the place itself. -/
theorem outermostElement_cases (p : Place) :
    outermostElement p ∈ outermostElement.go p.trail ∨
      outermostElement.go p.trail = [] ∧ outermostElement p = p := by
  rw [outermostElement]
  cases hlast : (outermostElement.go p.trail).getLast? with
  | none => exact Or.inr ⟨List.getLast?_eq_none_iff.mp hlast, rfl⟩
  | some above => exact Or.inl (List.mem_of_getLast? hlast)

/-- The outermost element stands above. -/
theorem outermostElement_suffix (p : Place) : (outermostElement p).trail <:+ p.trail := by
  rcases outermostElement_cases p with h | ⟨_, heq⟩
  · exact (of_mem_go h).2
  · exact heq.symm ▸ List.suffix_refl p.trail

/-- From an element it is an element. -/
theorem isElement_outermostElement {p : Place} (h : p.isElement = true) :
    (outermostElement p).isElement = true := by
  rcases outermostElement_cases p with hmem | ⟨_, heq⟩
  · exact (of_mem_go hmem).1
  · rw [heq]
    exact h

/-- Places with one outline have outermost elements with one outline. -/
theorem outline_outermostElement_congr {p q : Place} (h : p.outline = q.outline) :
    (outermostElement p).outline = (outermostElement q).outline := by
  have houtline (r : Place) : (outermostElement r).outline =
      (elementOutlines r.outline.tail).getLast?.getD r.outline := by
    have htail : r.outline.tail = r.trail.map (·.parent.isElement) := rfl
    rw [htail, ← map_outline_go, List.getLast?_map, outermostElement, Option.getD_map]
  rw [houtline p, houtline q, h]

/-- The outermost element is that of the enclosing element. -/
theorem outermostElement_of_trail {p above : Place} {i : Nat}
    (htrail : p.trail = ⟨above.node, i⟩ :: above.trail) (h : above.isElement = true) :
    outermostElement p = outermostElement above := by
  have hgo : outermostElement.go p.trail = above :: outermostElement.go above.trail := by
    rw [htrail, outermostElement.go]
    exact if_pos h
  rw [outermostElement, outermostElement, hgo, List.getLast?_cons, Option.getD_some]

/-- The parent element stands directly above. -/
theorem trail_of_parentElement? {p above : Place} (h : p.parentElement? = some above) :
    above.isElement = true ∧ ∃ i, p.trail = ⟨above.node, i⟩ :: above.trail := by
  rw [Place.parentElement?, Option.filter_eq_some_iff, Place.parent?] at h
  obtain ⟨hparent, helement⟩ := h
  refine ⟨helement, ?_⟩
  split at hparent
  · contradiction
  · rename_i d rest htrail
    obtain rfl := Option.some.inj hparent
    exact ⟨d.index, htrail⟩

/-- No element stands around the last one along a trail. -/
theorem go_of_getLast?_go {trail : List Descent} {p : Place}
    (h : (outermostElement.go trail).getLast? = some p) : outermostElement.go p.trail = [] := by
  induction trail with
  | nil => simp [outermostElement.go] at h
  | cons d rest ih =>
      rw [outermostElement.go] at h
      split at h
      · rw [List.getLast?_cons] at h
        cases hlast : (outermostElement.go rest).getLast? with
        | none =>
            rw [hlast] at h
            obtain rfl := Option.some.inj h
            exact List.getLast?_eq_none_iff.mp hlast
        | some above =>
            rw [hlast] at h
            exact ih (hlast.trans h)
      · exact ih h

/-- Nothing stands above the outermost element. -/
@[simp] theorem outermostElement_idem (p : Place) :
    outermostElement (outermostElement p) = outermostElement p := by
  have hgo : outermostElement.go (outermostElement p).trail = [] := by
    cases hlast : (outermostElement.go p.trail).getLast? with
    | none =>
        rw [outermostElement, hlast]
        exact List.getLast?_eq_none_iff.mp hlast
    | some above =>
        rw [outermostElement, hlast]
        exact go_of_getLast?_go hlast
  rw [outermostElement, hgo]
  rfl

/-! ## Contexts -/

/-- The step takes what stands directly inside its contexts. -/
def NodeTest.takesChildren : NodeTest → Bool
  | .name _ | .anyElement => true
  | _ => false

/-- The context around an element: the enclosing element, or else the
document. -/
def contextAbove (p : Place) : PathContext :=
  match p.parentElement? with
  | some above => ⟨false, above⟩
  | none => ⟨true, outermostElement p⟩

/-- What a step can go to from a context. -/
inductive StepsTo : NodeTest → PathContext → PathContext → Prop
  | child {test : NodeTest} {c : PathContext} {q : Place} (htest : test.takesChildren = true)
      (h : q ∈ c.children) : StepsTo test c ⟨false, q⟩
  | self {c : PathContext} : StepsTo .self c c
  | parent {p : Place} : StepsTo .parent ⟨false, p⟩ (contextAbove p)

/-- The contexts that a step takes from a context. -/
def NodeTest.reached (test : NodeTest) (c : PathContext) : List PathContext :=
  itemContexts (test.candidates c)

/-- Every element that is found is a context of the next step. -/
@[simp] theorem itemContexts_map_node (places : List Place) :
    itemContexts (places.map fun p => .node ⟨false, p⟩) = places.map (PathContext.mk false) := by
  rw [itemContexts, List.filterMap_map, ← List.filterMap_eq_map]
  rfl

/-- Texts are none. -/
@[simp] theorem itemContexts_map_text {α : Type} (f : α → String) (l : List α) :
    itemContexts (l.map fun a => .text (f a)) = [] := by
  simp [itemContexts]

/-- A step for children takes some of them, in their order. -/
theorem reached_of_takesChildren {test : NodeTest} (h : test.takesChildren = true)
    (c : PathContext) :
    ∃ places : List Place, places.Sublist c.children ∧
      test.reached c = places.map (PathContext.mk false) := by
  match test with
  | .name n => exact ⟨_, List.filter_sublist, itemContexts_map_node _⟩
  | .anyElement => exact ⟨_, List.Sublist.refl _, itemContexts_map_node _⟩
  | .text => contradiction
  | .attribute n => contradiction
  | .anyAttribute => contradiction
  | .self => contradiction
  | .parent => contradiction

/-- Any other step takes at most one context. -/
theorem reached_of_not_takesChildren {test : NodeTest} (h : test.takesChildren = false)
    (c : PathContext) : test.reached c = [] ∨ ∃ x, test.reached c = [x] ∧ StepsTo test c x := by
  obtain ⟨isDocument, p⟩ := c
  match test with
  | .name n => contradiction
  | .anyElement => contradiction
  | .text =>
      refine Or.inl ?_
      rw [NodeTest.reached, NodeTest.candidates]
      split
      · rfl
      · exact itemContexts_map_text _ _
  | .attribute n =>
      refine Or.inl ?_
      rw [NodeTest.reached, NodeTest.candidates]
      split
      · rfl
      · cases p.attribute? n <;> rfl
  | .anyAttribute =>
      refine Or.inl ?_
      rw [NodeTest.reached, NodeTest.candidates]
      split
      · rfl
      · exact itemContexts_map_text _ _
  | .self => exact Or.inr ⟨_, rfl, .self⟩
  | .parent =>
      cases isDocument with
      | true => exact Or.inl rfl
      | false =>
          refine Or.inr ⟨contextAbove p, ?_, .parent⟩
          rw [contextAbove]
          cases hparent : p.parentElement? with
          | none => simp [NodeTest.reached, NodeTest.candidates, hparent, itemContexts]
          | some above => simp [NodeTest.reached, NodeTest.candidates, hparent, itemContexts]

/-- What the evaluator takes from a context is what the step goes to. -/
theorem stepsTo_of_mem {test : NodeTest} {c x : PathContext} (h : x ∈ test.reached c) :
    StepsTo test c x := by
  cases htest : test.takesChildren with
  | true =>
      obtain ⟨places, hsublist, hreached⟩ := reached_of_takesChildren htest c
      rw [hreached] at h
      obtain ⟨q, hq, rfl⟩ := List.mem_map.mp h
      exact .child htest (hsublist.subset hq)
  | false =>
      rcases reached_of_not_takesChildren htest c with hreached | ⟨y, hreached, hstep⟩
      · rw [hreached] at h
        contradiction
      · rw [hreached] at h
        obtain rfl := List.mem_singleton.mp h
        exact hstep

/-- What the evaluator takes from one context is in document order. -/
theorem reached_pairwise (test : NodeTest) (c : PathContext) :
    (test.reached c).Pairwise fun x y => x.element.Before y.element := by
  cases htest : test.takesChildren with
  | true =>
      obtain ⟨places, hsublist, hreached⟩ := reached_of_takesChildren htest c
      have hchildren : c.children.Pairwise Place.Before := by
        rw [PathContext.children]
        split
        · exact List.pairwise_singleton _ _
        · exact c.element.childElements_pairwise
      rw [hreached, List.pairwise_map]
      exact hchildren.sublist hsublist
  | false =>
      rcases reached_of_not_takesChildren htest c with hreached | ⟨x, hreached, _⟩
      · rw [hreached]
        exact List.Pairwise.nil
      · rw [hreached]
        exact List.pairwise_singleton _ _

/-! ## Levels -/

/-- The contexts stand equally deep, with elements at the same places above
them. -/
def PathContext.Aligned (c d : PathContext) : Prop :=
  c.isDocument = d.isDocument ∧ c.element.outline = d.element.outline

theorem outline_of_trail {p above : Place} {i : Nat}
    (h : p.trail = ⟨above.node, i⟩ :: above.trail) : p.outline = p.isElement :: above.outline := by
  rw [Place.outline, h, List.map_cons]
  rfl

/-- The outline of a child element is that of its parent, one deeper. -/
theorem outline_of_mem_childElements {p q : Place} (h : q ∈ p.childElements) :
    q.outline = true :: p.outline := by
  obtain ⟨hchild, helement⟩ := List.mem_filter.mp h
  obtain ⟨i, htrail⟩ := Place.trail_of_mem_children hchild
  rw [outline_of_trail htrail, helement]

/-- The position of a child element goes on from that of its parent. -/
theorem position_of_mem_childElements {p q : Place} (h : q ∈ p.childElements) :
    ∃ i, q.position = p.position ++ [i] := by
  obtain ⟨i, htrail⟩ := Place.trail_of_mem_children (List.mem_filter.mp h).1
  exact ⟨i, Place.position_of_trail htrail⟩

/-- The outline tells whether there is an enclosing element. -/
theorem parentElement?_eq_none_iff {p : Place} :
    p.parentElement? = none ↔ p.outline.tail.head? ≠ some true := by
  obtain ⟨n, trail⟩ := p
  cases trail with
  | nil => simp [Place.outline, Place.parentElement?, Place.parent?]
  | cons d rest =>
      simp [Place.outline, Place.parentElement?, Place.parent?, Place.isElement]

/-- The outline of the parent element is one shorter. -/
theorem outline_of_parentElement? {p above : Place} (h : p.parentElement? = some above) :
    above.outline = p.outline.tail := by
  obtain ⟨_, i, htrail⟩ := trail_of_parentElement? h
  rw [outline_of_trail htrail]
  rfl

/-- The context above stands above. -/
theorem contextAbove_suffix (p : Place) : (contextAbove p).element.trail <:+ p.trail := by
  rw [contextAbove]
  cases hparent : p.parentElement? with
  | none => exact outermostElement_suffix p
  | some above =>
      obtain ⟨_, i, htrail⟩ := trail_of_parentElement? hparent
      exact htrail ▸ List.suffix_cons _ _

/-- Children of aligned contexts are at one depth, in the order of their parents. -/
theorem children_aligned {c d : PathContext} (h : c.Aligned d) {p q : Place}
    (hp : p ∈ c.children) (hq : q ∈ d.children) :
    p.outline = q.outline ∧ (c.element.Before d.element → p.Before q) := by
  obtain ⟨hdocument, houtline⟩ := h
  rw [PathContext.children] at hp hq
  cases hc : c.isDocument with
  | true =>
      rw [hc] at hp hdocument
      rw [if_pos rfl] at hp
      rw [← hdocument, if_pos rfl] at hq
      obtain rfl := List.mem_singleton.mp hp
      obtain rfl := List.mem_singleton.mp hq
      exact ⟨houtline, id⟩
  | false =>
      rw [hc] at hp hdocument
      rw [if_neg Bool.false_ne_true] at hp
      rw [← hdocument, if_neg Bool.false_ne_true] at hq
      refine ⟨?_, ?_⟩
      · rw [outline_of_mem_childElements hp, outline_of_mem_childElements hq, houtline]
      · intro hbefore
        obtain ⟨i, hi⟩ := position_of_mem_childElements hp
        obtain ⟨j, hj⟩ := position_of_mem_childElements hq
        rw [Place.Before, hi, hj]
        exact append_lt_append_of_length_eq hbefore (Place.length_position_congr houtline) _ _

/-- Elements of one outline have aligned contexts above them. -/
theorem contextAbove_aligned {p q : Place} (h : p.outline = q.outline) :
    (contextAbove p).Aligned (contextAbove q) := by
  have hnone : p.parentElement? = none ↔ q.parentElement? = none := by
    rw [parentElement?_eq_none_iff, parentElement?_eq_none_iff, h]
  rw [contextAbove, contextAbove]
  cases hp : p.parentElement? with
  | none =>
      rw [hnone.mp hp]
      exact ⟨rfl, outline_outermostElement_congr h⟩
  | some above =>
      cases hq : q.parentElement? with
      | none =>
          rw [hnone.mpr hq] at hp
          contradiction
      | some above' =>
          refine ⟨rfl, ?_⟩
          rw [outline_of_parentElement? hp, outline_of_parentElement? hq, h]

/-- A step from aligned contexts goes to aligned contexts, and to contexts in
document order when these are. -/
theorem StepsTo.aligned {test : NodeTest} {c d x y : PathContext} (h : c.Aligned d)
    (hx : StepsTo test c x) (hy : StepsTo test d y) :
    x.Aligned y ∧
      (c.element.Before d.element → x.element.BeforeOrAt y.element) := by
  cases hx with
  | child htest hp =>
      cases hy with
      | child _ hq =>
          obtain ⟨houtline, hbefore⟩ := children_aligned h hp hq
          exact ⟨⟨rfl, houtline⟩, fun hcd => Or.inl (hbefore hcd)⟩
      | self => contradiction
      | parent => contradiction
  | self =>
      cases hy with
      | child htest _ => contradiction
      | self => exact ⟨h, Or.inl⟩
  | parent =>
      cases hy with
      | child htest _ => contradiction
      | parent =>
          have haligned := contextAbove_aligned h.2
          refine ⟨haligned, ?_⟩
          intro hbefore
          exact Place.beforeOrAt_of_suffix (contextAbove_suffix _) (contextAbove_suffix _)
            haligned.2 hbefore

/-- The contexts are aligned with one another and in document order. -/
structure Level (contexts : List PathContext) : Prop where
  aligned : ∀ c ∈ contexts, ∀ d ∈ contexts, c.Aligned d
  sorted : contexts.Pairwise fun c d => c.element.Before d.element

/-- One context is a level. -/
theorem level_singleton (c : PathContext) : Level [c] where
  aligned := by
    intro d hd e he
    rw [List.mem_singleton.mp hd, List.mem_singleton.mp he]
    exact ⟨rfl, rfl⟩
  sorted := List.pairwise_singleton _ _

/-! ## Steps -/

/-- What is kept of the items is kept of their contexts. -/
theorem itemContexts_keepFirst_sublist (keys : Std.HashSet (Bool × List Nat))
    (items : List PathItem) :
    (itemContexts (keepFirst keys items)).Sublist (itemContexts items) := by
  induction items generalizing keys with
  | nil => exact List.Sublist.refl []
  | cons item items ih =>
      cases item with
      | text content => exact ih keys
      | node c =>
          rw [keepFirst]
          split
          · exact (ih keys).cons c
          · exact (ih (keys.insert c.key)).cons_cons c

/-- What has been found before is not kept. -/
theorem key_not_mem_of_mem_keepFirst {keys : Std.HashSet (Bool × List Nat)}
    {items : List PathItem} {c : PathContext} (h : c ∈ itemContexts (keepFirst keys items)) :
    c.key ∉ keys := by
  induction items generalizing keys with
  | nil => simp [keepFirst, itemContexts] at h
  | cons item items ih =>
      cases item with
      | text content => exact ih h
      | node d =>
          rw [keepFirst] at h
          split at h
          · exact ih h
          · rename_i hnew
            have hcons : c ∈ d :: itemContexts (keepFirst (keys.insert d.key) items) := h
            rcases List.mem_cons.mp hcons with rfl | hrest
            · exact hnew
            · intro hkeys
              exact ih hrest (Std.HashSet.mem_insert.mpr (Or.inr hkeys))

/-- A step keeps the first of the contexts with one key. -/
theorem itemContexts_keepFirst_pairwise (keys : Std.HashSet (Bool × List Nat))
    (items : List PathItem) :
    (itemContexts (keepFirst keys items)).Pairwise fun c d => c.key ≠ d.key := by
  induction items generalizing keys with
  | nil => exact List.Pairwise.nil
  | cons item items ih =>
      cases item with
      | text content => exact ih keys
      | node c =>
          rw [keepFirst]
          split
          · exact ih keys
          · refine List.pairwise_cons.mpr ⟨?_, ih (keys.insert c.key)⟩
            intro d hd heq
            apply key_not_mem_of_mem_keepFirst hd
            rw [← heq]
            exact Std.HashSet.mem_insert_self

/-- The contexts among the survivors of a context are some that it reaches. -/
theorem itemContexts_survivors_sublist (step : PathStep) (c : PathContext) :
    (itemContexts (step.survivors c)).Sublist (step.test.reached c) :=
  (step.survivors_sublist c).filterMap _

/-- The contexts of all survivors are those of the survivors of each context. -/
theorem itemContexts_flatMap_survivors (step : PathStep) (contexts : List PathContext) :
    itemContexts (contexts.flatMap step.survivors) =
      contexts.flatMap fun c => itemContexts (step.survivors c) :=
  List.filterMap_flatMap

/-- What survives is what the step comes to. -/
theorem stepsTo_of_mem_survivors {step : PathStep} {contexts : List PathContext}
    {x : PathContext} (h : x ∈ itemContexts (contexts.flatMap step.survivors)) :
    ∃ c ∈ contexts, StepsTo step.test c x := by
  rw [itemContexts_flatMap_survivors] at h
  obtain ⟨c, hc, hx⟩ := List.mem_flatMap.mp h
  exact ⟨c, hc, stepsTo_of_mem ((itemContexts_survivors_sublist step c).subset hx)⟩

/-- What survives from a level is in document order, though not each once. -/
theorem Level.survivors_pairwise {contexts : List PathContext} (h : Level contexts)
    (step : PathStep) :
    (itemContexts (contexts.flatMap step.survivors)).Pairwise fun x y =>
      x.element.BeforeOrAt y.element := by
  rw [itemContexts_flatMap_survivors, List.pairwise_flatMap]
  constructor
  · intro c _
    have hreached :=
      (reached_pairwise step.test c).sublist (itemContexts_survivors_sublist step c)
    exact hreached.imp Or.inl
  · refine h.sorted.imp_of_mem ?_
    intro c d hc hd hbefore x hx y hy
    have hcx := stepsTo_of_mem ((itemContexts_survivors_sublist step c).subset hx)
    have hdy := stepsTo_of_mem ((itemContexts_survivors_sublist step d).subset hy)
    exact (hcx.aligned (h.aligned c hc d hd) hdy).2 hbefore

/-- A step that does not descend takes its candidates from the contexts as they
are. -/
theorem PathStep.contexts_of_direct {step : PathStep} (h : step.descendant = false)
    (items : List PathItem) : step.contexts items = itemContexts items := by
  simp [PathStep.contexts, h]

/-- **Levels are kept.**  A step that does not descend goes from a level to a
level. -/
theorem Level.apply {step : PathStep} (hstep : step.descendant = false)
    {items next : List PathItem} (hnext : step.apply items = some next)
    (h : Level (itemContexts items)) : Level (itemContexts next) := by
  obtain ⟨-, rfl⟩ := PathStep.apply_eq_some_iff.mp hnext
  rw [PathStep.contexts_of_direct hstep]
  have hsublist :=
    itemContexts_keepFirst_sublist ∅ ((itemContexts items).flatMap step.survivors)
  have haligned : ∀ x ∈ itemContexts (keepFirst ∅ ((itemContexts items).flatMap step.survivors)),
      ∀ y ∈ itemContexts (keepFirst ∅ ((itemContexts items).flatMap step.survivors)),
      x.Aligned y := by
    intro x hx y hy
    obtain ⟨c, hc, hcx⟩ := stepsTo_of_mem_survivors (hsublist.subset hx)
    obtain ⟨d, hd, hdy⟩ := stepsTo_of_mem_survivors (hsublist.subset hy)
    exact (hcx.aligned (h.aligned c hc d hd) hdy).1
  refine ⟨haligned, ?_⟩
  have hkeys := itemContexts_keepFirst_pairwise ∅ ((itemContexts items).flatMap step.survivors)
  have hsorted := (h.survivors_pairwise step).sublist hsublist
  refine (hkeys.and hsorted).imp_of_mem ?_
  intro x y hx hy ⟨hkey, hbeforeOrAt⟩
  -- aligned contexts of different keys stand at different places
  have hne : x.element.position ≠ y.element.position := by
    intro heq
    apply hkey
    simp [PathContext.key, (haligned x hx y hy).1, Place.path_eq_iff.mpr heq]
  rcases hbeforeOrAt with hbefore | heq
  · exact hbefore
  · exact absurd heq hne

/-- What holds of the items that a path begins with, and is kept by each of its
steps, holds of what it finds.  It is to hold of nothing as well, since a path
that has no answer finds nothing. -/
theorem LocationPath.found_induction (P : List PathItem → Prop) {path : LocationPath}
    {element : Place} (hnil : P []) (hstart : P [.node (path.start element)])
    (hstep : ∀ step ∈ path.steps, ∀ items next, step.apply items = some next → P items → P next) :
    P (path.found element) := by
  have hsteps (steps : List PathStep) (hmem : ∀ s ∈ steps, s ∈ path.steps)
      {items found : List PathItem} (hfound : applySteps steps items = some found)
      (hitems : P items) : P found := by
    induction steps generalizing items with
    | nil => exact Option.some.inj hfound ▸ hitems
    | cons step steps ih =>
        obtain ⟨hfirst, hrest⟩ := List.forall_mem_cons.mp hmem
        obtain ⟨next, hnext, hfound⟩ := Option.bind_eq_some_iff.mp hfound
        exact ih hrest hfound (hstep step hfirst items next hnext hitems)
  rw [LocationPath.found]
  cases hevaluate : path.evaluate element with
  | none => exact hnil
  | some found => exact hsteps path.steps (fun _ hs => hs) hevaluate hstart

/-- A path whose steps do not descend finds a level. -/
theorem level_found {path : LocationPath} (hsteps : ∀ s ∈ path.steps, s.descendant = false)
    (element : Place) : Level (itemContexts (path.found element)) :=
  LocationPath.found_induction (fun items => Level (itemContexts items))
    ⟨by simp [itemContexts], List.Pairwise.nil⟩ (level_singleton (path.start element))
    fun step hstep _ _ hnext h => h.apply (hsteps step hstep) hnext

/-! ## Roots -/

/-- The context is an element in the tree with the given outermost element, or
is its document. -/
structure RootedAt (root : Place) (c : PathContext) : Prop where
  isElement : c.element.isElement = true
  outermost : outermostElement c.element = root
  document : c.isDocument = true → c.element = root

/-- A step does not leave the tree. -/
theorem StepsTo.rootedAt {test : NodeTest} {root : Place} {c x : PathContext}
    (h : RootedAt root c) (hx : StepsTo test c x) : RootedAt root x := by
  cases hx with
  | child _ hq =>
      rw [PathContext.children] at hq
      split at hq
      · obtain rfl := List.mem_singleton.mp hq
        exact ⟨h.isElement, h.outermost, by simp⟩
      · obtain ⟨hchild, helement⟩ := List.mem_filter.mp hq
        obtain ⟨i, htrail⟩ := Place.trail_of_mem_children hchild
        refine ⟨helement, ?_, by simp⟩
        rw [outermostElement_of_trail htrail h.isElement, h.outermost]
  | self => exact h
  | parent =>
      rw [contextAbove]
      split
      · rename_i above hparent
        obtain ⟨helement, i, htrail⟩ := trail_of_parentElement? hparent
        refine ⟨helement, ?_, by simp⟩
        rw [← outermostElement_of_trail htrail helement]
        exact h.outermost
      · refine ⟨isElement_outermostElement h.isElement, ?_, fun _ => h.outermost⟩
        rw [outermostElement_idem]
        exact h.outermost

/-- An evaluation begins under the outermost element. -/
theorem rootedAt_start (path : LocationPath) {element : Place} (h : element.isElement = true) :
    RootedAt (outermostElement element) (path.start element) := by
  rw [LocationPath.start]
  split
  · exact ⟨isElement_outermostElement h, outermostElement_idem element, fun _ => rfl⟩
  · exact ⟨h, rfl, by simp⟩

/-- A path whose steps do not descend stays in the tree that it begins in. -/
theorem rootedAt_found {path : LocationPath} (hsteps : ∀ s ∈ path.steps, s.descendant = false)
    {element : Place} (h : element.isElement = true) :
    ∀ c ∈ itemContexts (path.found element), RootedAt (outermostElement element) c := by
  refine LocationPath.found_induction
    (fun items => ∀ c ∈ itemContexts items, RootedAt (outermostElement element) c)
    (by simp [itemContexts]) ?_ ?_
  · intro c hc
    obtain rfl := List.mem_singleton.mp hc
    exact rootedAt_start path h
  · intro step hstep items next hnext hitems x hx
    obtain ⟨-, rfl⟩ := PathStep.apply_eq_some_iff.mp hnext
    rw [PathStep.contexts_of_direct (hsteps step hstep)] at hx
    have hsublist :=
      itemContexts_keepFirst_sublist ∅ ((itemContexts items).flatMap step.survivors)
    obtain ⟨c, hc, hcx⟩ := stepsTo_of_mem_survivors (hsublist.subset hx)
    exact hcx.rootedAt (hitems c hc)

end Folio.Rule
