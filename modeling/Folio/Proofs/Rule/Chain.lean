import Folio.Proofs.Markup.Tree
import Folio.Proofs.Rule.DocumentOrder

/-!
# Folio.Proofs.Rule.Chain

What a location path finds, said without its evaluation.  A step leads from a
context to the candidates that survive its conditions; a path finds exactly the
contexts that end a chain of such steps (`mem_evaluate_iff_chain`).  The
evaluator goes from level to level instead and drops what it has found before.
In one tree a context is known by its key, so that this loses nothing.  All this
is said of paths that have an answer; a condition without one ends no chain.
-/

namespace Folio.Rule

open Folio.Markup

/-! ## Chains -/

/-- A context spans another: that one is the context itself or an element inside
it.  Inside a document are its outermost element and all that this encloses. -/
inductive PathContext.Spans : PathContext → PathContext → Prop
  | self {c : PathContext} : Spans c c
  | outermost {p : Place} : Spans ⟨true, p⟩ ⟨false, p⟩
  | inside {isDocument : Bool} {p q : Place} (h : p.Encloses q) (helement : q.isElement = true) :
      Spans ⟨isDocument, p⟩ ⟨false, q⟩

/-- What a condition leaves of the items from a position on, out of `size`: those
that satisfy it, each at its own position. -/
inductive Predicate.Leaves (p : Predicate) (size : Nat) :
    Nat → List PathItem → List PathItem → Prop
  | done {position : Nat} : Leaves p size position [] []
  | kept {position : Nat} {item : PathItem} {items left : List PathItem}
      (h : p.holds item position size = some true)
      (rest : Leaves p size (position + 1) items left) :
      Leaves p size position (item :: items) (item :: left)
  | dropped {position : Nat} {item : PathItem} {items left : List PathItem}
      (h : p.holds item position size = some false)
      (rest : Leaves p size (position + 1) items left) :
      Leaves p size position (item :: items) left

/-- An item survives conditions: each leaves it, of those that the one before
left.  Positions are counted from one. -/
inductive Survives : List Predicate → List PathItem → PathItem → Prop
  | nil {items : List PathItem} {item : PathItem} (h : item ∈ items) : Survives [] items item
  | cons {p : Predicate} {ps : List Predicate} {items left : List PathItem} {item : PathItem}
      (leaves : p.Leaves items.length 1 items left) (rest : Survives ps left item) :
      Survives (p :: ps) items item

/-- A step leads from a context to another: that one is a candidate of its test
from an inner context, and survives its conditions among the candidates from
there.  The inner context is the first itself, or anything it spans where the
step descends. -/
inductive PathStep.Leads (step : PathStep) : PathContext → PathContext → Prop
  | direct {c d : PathContext} (h : step.descendant = false)
      (survives : Survives step.predicates (step.test.candidates c) (.node d)) : Leads step c d
  | descending {c inner d : PathContext} (h : step.descendant = true) (spans : c.Spans inner)
      (survives : Survives step.predicates (step.test.candidates inner) (.node d)) :
      Leads step c d

/-- Each of the steps leads on from the context where the one before it led. -/
inductive Chain : List PathStep → PathContext → PathContext → Prop
  | nil {c : PathContext} : Chain [] c c
  | cons {step : PathStep} {steps : List PathStep} {c d e : PathContext} (first : step.Leads c d)
      (rest : Chain steps d e) : Chain (step :: steps) c e

/-! ## One step -/

/-- The contexts of a step are the elements among its items. -/
@[simp] theorem mem_itemContexts {items : List PathItem} {c : PathContext} :
    c ∈ itemContexts items ↔ .node c ∈ items := by
  rw [itemContexts, List.mem_filterMap]
  constructor
  · rintro ⟨item, hitem, hc⟩
    cases item with
    | text content => contradiction
    | node d =>
        obtain rfl := Option.some.inj hc
        exact hitem
  · exact fun h => ⟨.node c, h, rfl⟩

/-- The contexts in a context are those that it spans. -/
@[simp] theorem mem_withDescendants_iff {c x : PathContext} :
    x ∈ c.withDescendants ↔ c.Spans x := by
  obtain ⟨isDocument, p⟩ := c
  have hinside : x ∈ (p :: p.elementsBelow).map (PathContext.mk false) ↔
      x = ⟨false, p⟩ ∨
        ∃ q, (p.Encloses q ∧ q.isElement = true) ∧ (⟨false, q⟩ : PathContext) = x := by
    rw [List.map_cons, List.mem_cons, List.mem_map]
    simp only [Place.mem_elementsBelow_iff]
  constructor
  · intro h
    have hcases : x = ⟨isDocument, p⟩ ∨ x ∈ (p :: p.elementsBelow).map (PathContext.mk false) := by
      cases isDocument with
      | true => exact List.mem_cons.mp h
      | false => exact Or.inr h
    rcases hcases with rfl | h
    · exact .self
    · rcases hinside.mp h with rfl | ⟨q, ⟨hq, helement⟩, rfl⟩
      · cases isDocument with
        | true => exact .outermost
        | false => exact .self
      · exact .inside hq helement
  · intro h
    have hmem (hx : x ∈ (p :: p.elementsBelow).map (PathContext.mk false)) :
        x ∈ PathContext.withDescendants ⟨isDocument, p⟩ := by
      cases isDocument with
      | true => exact List.mem_cons_of_mem _ hx
      | false => exact hx
    cases h with
    | self =>
        cases isDocument with
        | true => exact List.mem_cons_self
        | false => exact List.mem_cons_self
    | outermost => exact hmem (hinside.mpr (Or.inl rfl))
    | inside hq helement => exact hmem (hinside.mpr (Or.inr ⟨_, ⟨hq, helement⟩, rfl⟩))

/-- What a condition leaves is what the evaluator keeps. -/
theorem leaves_iff {p : Predicate} {size position : Nat} {items left : List PathItem} :
    p.Leaves size position items left ↔ p.keepFrom size position items = some left := by
  induction items generalizing position left with
  | nil =>
      constructor
      · intro h
        cases h
        rfl
      · intro h
        obtain rfl := Option.some.inj h
        exact .done
  | cons item items ih =>
      constructor
      · intro h
        cases h with
        | kept hitem rest => rw [Predicate.keepFrom, hitem, ih.mp rest]; rfl
        | dropped hitem rest => rw [Predicate.keepFrom, hitem, ih.mp rest]; rfl
      · intro h
        obtain ⟨holds, hitem, h⟩ := Option.bind_eq_some_iff.mp h
        obtain ⟨others, hothers, h⟩ := Option.bind_eq_some_iff.mp h
        obtain rfl := Option.some.inj h
        cases holds with
        | true => exact .kept hitem (ih.mpr hothers)
        | false => exact .dropped hitem (ih.mpr hothers)

/-- The items that conditions keep are those that survive them. -/
theorem survives_iff {ps : List Predicate} {items : List PathItem} {item : PathItem} :
    Survives ps items item ↔ ∃ kept, keepAll ps items = some kept ∧ item ∈ kept := by
  induction ps generalizing items with
  | nil =>
      constructor
      · intro h
        cases h with
        | nil h => exact ⟨items, rfl, h⟩
      · rintro ⟨kept, hkept, hitem⟩
        obtain rfl := Option.some.inj hkept
        exact .nil hitem
  | cons p ps ih =>
      constructor
      · intro h
        cases h with
        | cons leaves rest =>
            obtain ⟨kept, hkept, hitem⟩ := ih.mp rest
            refine ⟨kept, ?_, hitem⟩
            rw [keepAll, Predicate.keep, leaves_iff.mp leaves, Option.bind_some, hkept]
      · rintro ⟨kept, hkept, hitem⟩
        obtain ⟨left, hleft, hkept⟩ := Option.bind_eq_some_iff.mp hkept
        exact .cons (leaves_iff.mpr hleft) (ih.mpr ⟨kept, hkept, hitem⟩)

/-- What survives is what the predicates keep of the candidates. -/
@[simp] theorem mem_survivors_iff {step : PathStep} {c : PathContext} {item : PathItem} :
    item ∈ step.survivors c ↔ Survives step.predicates (step.test.candidates c) item := by
  rw [survives_iff, PathStep.survivors]
  cases keepAll step.predicates (step.test.candidates c) <;> simp

/-- What survives from the contexts of a step is what it leads to. -/
theorem node_mem_survivors_iff {step : PathStep} {items : List PathItem} {d : PathContext} :
    .node d ∈ (step.contexts items).flatMap step.survivors ↔
      ∃ c, .node c ∈ items ∧ step.Leads c d := by
  rw [PathStep.contexts, List.flatMap_assoc]
  simp only [List.mem_flatMap, mem_itemContexts, mem_survivors_iff]
  refine exists_congr fun c => and_congr_right fun _ => ?_
  cases hdescendant : step.descendant with
  | false =>
      simp only [Bool.false_eq_true, if_false, List.mem_singleton, exists_eq_left]
      constructor
      · exact .direct hdescendant
      · intro h
        cases h with
        | direct _ survives => exact survives
        | descending htrue => rw [hdescendant] at htrue; contradiction
  | true =>
      simp only [if_true, mem_withDescendants_iff]
      constructor
      · rintro ⟨inner, hspans, survives⟩
        exact .descending hdescendant hspans survives
      · intro h
        cases h with
        | direct hfalse => rw [hdescendant] at hfalse; contradiction
        | descending _ spans survives => exact ⟨_, spans, survives⟩

/-- Of the contexts with one key one is kept. -/
theorem exists_mem_keepFirst (keys : Std.HashSet (Bool × List Nat)) {items : List PathItem}
    {c : PathContext} (h : .node c ∈ items) :
    c.key ∈ keys ∨ ∃ d, .node d ∈ keepFirst keys items ∧ d.key = c.key := by
  induction items generalizing keys with
  | nil => contradiction
  | cons item items ih =>
      cases item with
      | text content =>
          have hrest : .node c ∈ items := by simpa using h
          rcases ih keys hrest with hseen | ⟨d, hd, hkey⟩
          · exact Or.inl hseen
          · exact Or.inr ⟨d, List.mem_cons_of_mem _ hd, hkey⟩
      | node e =>
          rw [keepFirst]
          by_cases he : e.key ∈ keys
          · rw [if_pos he]
            rcases List.mem_cons.mp h with heq | hrest
            · obtain rfl := PathItem.node.inj heq
              exact Or.inl he
            · exact ih keys hrest
          · rw [if_neg he]
            rcases List.mem_cons.mp h with heq | hrest
            · obtain rfl := PathItem.node.inj heq
              exact Or.inr ⟨c, List.mem_cons_self, rfl⟩
            · rcases ih (keys.insert e.key) hrest with hseen | ⟨d, hd, hkey⟩
              · rcases Std.HashSet.mem_insert.mp hseen with heq | hseen
                · rw [beq_iff_eq] at heq
                  exact Or.inr ⟨e, List.mem_cons_self, heq⟩
                · exact Or.inl hseen
              · exact Or.inr ⟨d, List.mem_cons_of_mem _ hd, hkey⟩

/-! ## One tree -/

section Tree

variable {tree : Node} {c d : PathContext}

/-- In one tree contexts are known by their keys. -/
theorem eq_of_key_eq (hc : c.element.Within tree) (hd : d.element.Within tree)
    (h : c.key = d.key) : c = d := by
  obtain ⟨b, p⟩ := c
  obtain ⟨b', q⟩ := d
  obtain ⟨hflag, hpath⟩ := Prod.mk.inj h
  cases hflag
  obtain rfl := hc.eq_of_path_eq hd hpath
  rfl

/-- What stands above a place of the tree is in the tree. -/
theorem within_of_mem_go {p : Place} {trail : List Descent} {n : Node}
    (h : Place.Within tree ⟨n, trail⟩) (hp : p ∈ outermostElement.go trail) : p.Within tree := by
  induction trail generalizing n with
  | nil => contradiction
  | cons e rest ih =>
      have houter : Place.Within tree ⟨e.parent, rest⟩ := h.parent rfl
      rw [outermostElement.go] at hp
      split at hp
      · rcases List.mem_cons.mp hp with rfl | hp
        · exact houter
        · exact ih houter hp
      · exact ih houter hp

/-- So is the outermost element. -/
theorem within_outermostElement {p : Place} (h : p.Within tree) :
    (outermostElement p).Within tree := by
  rcases outermostElement_cases p with hmem | ⟨_, heq⟩
  · exact within_of_mem_go h hmem
  · rw [heq]
    exact h

/-- So is the context above. -/
theorem within_contextAbove {p : Place} (h : p.Within tree) :
    (contextAbove p).element.Within tree := by
  rw [contextAbove]
  split
  · next above habove => exact h.parentElement? habove
  · exact within_outermostElement h

/-- So is what a context spans. -/
theorem PathContext.Spans.within (hc : c.element.Within tree) (h : c.Spans d) :
    d.element.Within tree := by
  cases h with
  | self => exact hc
  | outermost => exact hc
  | inside hq _ => exact hc.encloses hq

/-- A step stays in the tree. -/
theorem StepsTo.within {test : NodeTest} (hc : c.element.Within tree) (h : StepsTo test c d) :
    d.element.Within tree := by
  cases h with
  | child _ hq =>
      rw [PathContext.children] at hq
      split at hq
      · obtain rfl := List.mem_singleton.mp hq
        exact hc
      · exact hc.child (List.mem_filter.mp hq).1
  | self => exact hc
  | parent => exact within_contextAbove hc

/-- So do the candidates that survive. -/
theorem Survives.within {test : NodeTest} {ps : List Predicate} (hc : c.element.Within tree)
    (h : Survives ps (test.candidates c) (.node d)) : d.element.Within tree := by
  obtain ⟨kept, hkept, hmem⟩ := survives_iff.mp h
  have hcandidate := (keepAll_sublist hkept).subset hmem
  exact (stepsTo_of_mem (mem_itemContexts.mpr hcandidate)).within hc

/-- A step stays within the tree. -/
theorem PathStep.Leads.within {step : PathStep} (hc : c.element.Within tree)
    (h : step.Leads c d) : d.element.Within tree := by
  cases h with
  | direct _ survives => exact survives.within hc
  | descending _ spans survives => exact survives.within (spans.within hc)

/-- An evaluation begins in the tree. -/
theorem within_start (path : LocationPath) {element : Place} (h : element.Within tree) :
    (path.start element).element.Within tree := by
  rw [LocationPath.start]
  split
  · exact within_outermostElement h
  · exact h

/-- Dropping what was found before loses nothing: a step finds what it leads to
from one of the contexts. -/
theorem node_mem_apply_iff {step : PathStep} {items next : List PathItem}
    (hnext : step.apply items = some next) (h : ∀ c, .node c ∈ items → c.element.Within tree) :
    .node d ∈ next ↔ ∃ c, .node c ∈ items ∧ step.Leads c d := by
  obtain ⟨-, rfl⟩ := PathStep.apply_eq_some_iff.mp hnext
  have hwithin : ∀ e, .node e ∈ (step.contexts items).flatMap step.survivors →
      e.element.Within tree := by
    intro e he
    obtain ⟨c, hc, hleads⟩ := node_mem_survivors_iff.mp he
    exact hleads.within (h c hc)
  have hkept : ∀ e, .node e ∈ keepFirst ∅ ((step.contexts items).flatMap step.survivors) →
      .node e ∈ (step.contexts items).flatMap step.survivors := by
    intro e he
    rw [← mem_itemContexts] at he ⊢
    exact (itemContexts_keepFirst_sublist ∅ _).subset he
  rw [← node_mem_survivors_iff]
  constructor
  · exact hkept d
  · intro hd
    rcases exists_mem_keepFirst ∅ hd with hseen | ⟨e, he, hkey⟩
    · simp at hseen
    · rw [← eq_of_key_eq (hwithin e (hkept e he)) (hwithin d hd) hkey]
      exact he

/-- A chain stays in the tree. -/
theorem Chain.within {steps : List PathStep} (hc : c.element.Within tree) (h : Chain steps c d) :
    d.element.Within tree := by
  induction h with
  | nil => exact hc
  | cons first _ ih => exact ih (first.within hc)

/-! ## Whole paths -/

/-- An element is found exactly where a chain leads to it, by induction on the steps. -/
theorem node_mem_applySteps_iff {steps : List PathStep} {items found : List PathItem}
    (hfound : applySteps steps items = some found)
    (h : ∀ c, .node c ∈ items → c.element.Within tree) :
    .node d ∈ found ↔ ∃ c, .node c ∈ items ∧ Chain steps c d := by
  induction steps generalizing items with
  | nil =>
      obtain rfl := Option.some.inj hfound
      constructor
      · exact fun hd => ⟨d, hd, .nil⟩
      · rintro ⟨c, hc, hchain⟩
        cases hchain with
        | nil => exact hc
  | cons step steps ih =>
      obtain ⟨next, hnext, hfound⟩ := Option.bind_eq_some_iff.mp hfound
      have happly : ∀ e, .node e ∈ next → e.element.Within tree := by
        intro e he
        obtain ⟨c, hc, hleads⟩ := (node_mem_apply_iff hnext h).mp he
        exact hleads.within (h c hc)
      rw [ih hfound happly]
      constructor
      · rintro ⟨e, he, hchain⟩
        obtain ⟨c, hc, hleads⟩ := (node_mem_apply_iff hnext h).mp he
        exact ⟨c, hc, .cons hleads hchain⟩
      · rintro ⟨c, hc, hchain⟩
        cases hchain with
        | cons hleads hrest =>
            exact ⟨_, (node_mem_apply_iff hnext h).mpr ⟨c, hc, hleads⟩, hrest⟩

/-- A path finds what a chain of its steps leads to. -/
theorem LocationPath.node_mem_evaluate_iff {element : Place} (h : element.Within tree)
    {path : LocationPath} {found : List PathItem} (hfound : path.evaluate element = some found) :
    .node d ∈ found ↔ Chain path.steps (path.start element) d := by
  have hstart : ∀ c, .node c ∈ [PathItem.node (path.start element)] → c.element.Within tree := by
    intro c hc
    obtain rfl := PathItem.node.inj (List.mem_singleton.mp hc)
    exact within_start path h
  rw [node_mem_applySteps_iff hfound hstart]
  constructor
  · rintro ⟨c, hc, hchain⟩
    obtain rfl := PathItem.node.inj (List.mem_singleton.mp hc)
    exact hchain
  · exact fun hchain => ⟨_, List.mem_cons_self, hchain⟩

end Tree

/-- The division in the body. -/
def division : Place := ⟨.element ⟨.html, "div", []⟩ [paragraph "one"], [⟨dividedBody, 0⟩]⟩

end Folio.Rule
