import Folio.Proofs.Rule.Level
import Mathlib.Data.List.Basic

/-!
# Folio.Proofs.Rule.DocumentOrder

The order of the elements that a location path finds.  A step lists what it
takes from one context after what it takes from the contexts before it.  As long
as no step descends, this is document order.  A step for children that descends
goes through its contexts in document order, but lists the children of an
element before those of anything inside it: what lies inside an earlier sibling
of a result is listed after that result, though it stands before it.
-/

namespace Folio.Rule

open Folio.Markup

/-- The places are in document order. -/
def InDocumentOrder (places : List Place) : Prop := places.Pairwise Place.Before

instance (places : List Place) : Decidable (InDocumentOrder places) :=
  inferInstanceAs (Decidable (places.Pairwise Place.Before))

/-! ## First occurrences -/

theorem before_of_path_eq {p q r : Place} (h : p.Before r) (hpath : q.path = p.path) :
    q.Before r := by
  rw [Place.Before, Place.path_eq_iff.mp hpath]
  exact h

/-- A place that is new comes before all first occurrences behind it. -/
theorem inDocumentOrder_firstPlaces_cons {earlier places : List Place} {p : Place} :
    InDocumentOrder (firstPlaces earlier (p :: places)) ↔
      ((∀ r ∈ earlier, r.path ≠ p.path) → ∀ q ∈ firstPlaces (p :: earlier) places, p.Before q) ∧
        InDocumentOrder (firstPlaces (p :: earlier) places) := by
  by_cases hseen : ∃ r ∈ earlier, r.path = p.path
  · rw [firstPlaces_cons_of_seen hseen]
    obtain ⟨r, hr, heq⟩ := hseen
    exact ⟨fun h => ⟨fun hnew => absurd heq (hnew r hr), h⟩, fun h => h.2⟩
  · have hnew : ∀ r ∈ earlier, r.path ≠ p.path := fun r hr heq => hseen ⟨r, hr, heq⟩
    rw [firstPlaces_cons_of_new hnew, InDocumentOrder, List.pairwise_cons]
    exact ⟨fun h => ⟨fun _ => h.1, h.2⟩, fun h => ⟨h.1 hnew, h.2⟩⟩

/-- First occurrences are in document order when each of them stands after all
places that are listed before it. -/
theorem inDocumentOrder_firstPlaces_iff {earlier places : List Place} :
    InDocumentOrder (firstPlaces earlier places) ↔
      ∀ before p after, places = before ++ p :: after →
        (∀ q ∈ before, q.path ≠ p.path) → (∀ q ∈ earlier, q.path ≠ p.path) →
        ∀ q ∈ before, (∀ r ∈ earlier, r.path ≠ q.path) → q.Before p := by
  induction places generalizing earlier with
  | nil => simp [firstPlaces, InDocumentOrder]
  | cons s places ih =>
      rw [inDocumentOrder_firstPlaces_cons, ih]
      constructor
      · rintro ⟨hfirst, hrest⟩ before p after hplaces hbefore hearlier q hq hqearlier
        cases before with
        | nil => contradiction
        | cons t before =>
            obtain ⟨rfl, htail⟩ := List.cons.inj hplaces
            obtain ⟨hs, hbefore⟩ := List.forall_mem_cons.mp hbefore
            have hpearlier : ∀ r ∈ s :: earlier, r.path ≠ p.path :=
              List.forall_mem_cons.mpr ⟨hs, hearlier⟩
            have hmem : p ∈ firstPlaces (s :: earlier) places :=
              mem_firstPlaces_iff.mpr ⟨before, after, htail, hbefore, hpearlier⟩
            by_cases hsame : s.path = q.path
            · refine before_of_path_eq (hfirst ?_ p hmem) hsame.symm
              rw [hsame]
              exact hqearlier
            · rcases List.mem_cons.mp hq with rfl | hq
              · exact absurd rfl hsame
              · exact hrest before p after htail hbefore hpearlier q hq
                  (List.forall_mem_cons.mpr ⟨hsame, hqearlier⟩)
      · intro h
        constructor
        · intro hnew p hp
          obtain ⟨before, after, rfl, hbefore, hearlier⟩ := mem_firstPlaces_iff.mp hp
          obtain ⟨hs, hearlier⟩ := List.forall_mem_cons.mp hearlier
          exact h (s :: before) p after rfl (List.forall_mem_cons.mpr ⟨hs, hbefore⟩) hearlier s
            List.mem_cons_self hnew
        · intro before p after hplaces hbefore hearlier q hq hqearlier
          obtain ⟨hs, hearlier⟩ := List.forall_mem_cons.mp hearlier
          exact h (s :: before) p after (by rw [hplaces, List.cons_append])
            (List.forall_mem_cons.mpr ⟨hs, hbefore⟩) hearlier q (List.mem_cons_of_mem s hq)
            (List.forall_mem_cons.mp hqearlier).2

/-! ## Contexts -/

/-- The elements among items are those of their contexts. -/
theorem filterMap_place? (items : List PathItem) :
    items.filterMap PathItem.place? = (itemContexts items).map PathContext.element := by
  induction items with
  | nil => rfl
  | cons item items ih =>
      cases item with
      | text content => exact ih
      | node c => exact congrArg (c.element :: ·) ih

/-- What a step takes from one context is in document order. -/
theorem inDocumentOrder_taken (step : PathStep) (c : PathContext) :
    InDocumentOrder (step.taken c) := by
  rw [PathStep.taken, filterMap_place?, InDocumentOrder, List.pairwise_map]
  exact (reached_pairwise step.test c).sublist (itemContexts_survivors_sublist step c)

/-- Splitting what is taken from contexts splits the contexts. -/
theorem exists_split_of_flatMap_eq {α β : Type} {f : α → List β} {l : List α}
    {before after : List β} {b : β} (h : l.flatMap f = before ++ b :: after) :
    ∃ front a back first second, l = front ++ a :: back ∧ f a = first ++ b :: second ∧
      before = front.flatMap f ++ first := by
  induction l generalizing before with
  | nil => simp at h
  | cons a l ih =>
      rw [List.flatMap_cons] at h
      -- the element stands in what comes from `a`, or after all of that
      have hcases : (∃ second, f a = before ++ b :: second) ∨
          ∃ rest, before = f a ++ rest ∧ l.flatMap f = rest ++ b :: after := by
        rcases List.append_eq_append_iff.mp h with ⟨rest, hbefore, hrest⟩ | ⟨rest, hfirst, hrest⟩
        · exact Or.inr ⟨rest, hbefore, hrest⟩
        · cases rest with
          | nil => exact Or.inr ⟨[], by simpa using hfirst.symm, hrest.symm⟩
          | cons d second =>
              obtain ⟨rfl, _⟩ := List.cons.inj hrest
              exact Or.inl ⟨second, hfirst⟩
      rcases hcases with ⟨second, hfirst⟩ | ⟨rest, rfl, hrest⟩
      · exact ⟨[], a, l, before, second, rfl, hfirst, rfl⟩
      · obtain ⟨front, c, back, first, second, rfl, hc, rfl⟩ := ih hrest
        refine ⟨a :: front, c, back, first, second, rfl, hc, ?_⟩
        rw [List.flatMap_cons, List.append_assoc]

/-- First occurrences of what is taken from contexts are in document order when
what is new with each context stands after all that was taken before. -/
theorem inDocumentOrder_firstPlaces_flatMap_iff (step : PathStep) (contexts : List PathContext) :
    InDocumentOrder (firstPlaces [] (contexts.flatMap step.taken)) ↔
      ∀ before c after, contexts = before ++ c :: after →
        ∀ x ∈ before.flatMap step.taken, ∀ y ∈ step.taken c,
          (∀ z ∈ before.flatMap step.taken, z.path ≠ y.path) → x.Before y := by
  rw [inDocumentOrder_firstPlaces_iff]
  constructor
  · rintro h before c after rfl x hx y hy hnew
    obtain ⟨first, second, hsplit⟩ := List.append_of_mem hy
    have htaken := inDocumentOrder_taken step c
    rw [hsplit, InDocumentOrder, List.pairwise_append] at htaken
    have hplaces : (before ++ c :: after).flatMap step.taken =
        (before.flatMap step.taken ++ first) ++ y :: (second ++ after.flatMap step.taken) := by
      rw [List.flatMap_append, List.flatMap_cons, hsplit]
      simp only [List.append_assoc, List.cons_append]
    refine h _ y _ hplaces ?_ (by simp) x (List.mem_append_left _ hx) (by simp)
    intro q hq
    rcases List.mem_append.mp hq with hq | hq
    · exact hnew q hq
    · exact (htaken.2.2 q hq y List.mem_cons_self).path_ne
  · intro h before p after hplaces hnew _ q hq _
    obtain ⟨front, c, back, first, second, rfl, hc, rfl⟩ := exists_split_of_flatMap_eq hplaces
    rcases List.mem_append.mp hq with hq | hq
    · refine h front c back rfl q hq p (by rw [hc]; simp) ?_
      intro z hz
      exact hnew z (List.mem_append_left _ hz)
    · have htaken := inDocumentOrder_taken step c
      rw [hc, InDocumentOrder, List.pairwise_append] at htaken
      exact htaken.2.2 q hq p List.mem_cons_self

/-! ## Paths that do not descend -/

/-- **Order without descending.**  A path whose steps do not descend finds its
elements in document order. -/
theorem inDocumentOrder_of_not_descendant {path : LocationPath}
    (h : ∀ s ∈ path.steps, s.descendant = false) (element : Place) :
    InDocumentOrder (path.elements element) := by
  have hlevel : Level (itemContexts (path.found element)) := level_found h element
  have hplaces : InDocumentOrder ((path.found element).filterMap PathItem.place?) := by
    rw [filterMap_place?, InDocumentOrder, List.pairwise_map]
    exact hlevel.sorted
  rw [LocationPath.elements, filterMap_keepFirstElements holds_empty]
  exact hplaces.sublist (firstPlaces_sublist _ _)

/-! ## Children of elements in document order -/

theorem of_pairwise_of_before {places : List Place} {R : Place → Place → Prop}
    (h : InDocumentOrder places) (hR : places.Pairwise R) {p q : Place} (hp : p ∈ places)
    (hq : q ∈ places) (hbefore : p.Before q) : R p q := by
  induction places with
  | nil => contradiction
  | cons r places ih =>
      obtain ⟨hfirst, hrest⟩ := List.pairwise_cons.mp h
      obtain ⟨hRfirst, hRrest⟩ := List.pairwise_cons.mp hR
      rcases List.mem_cons.mp hp with rfl | hpRest
      · rcases List.mem_cons.mp hq with rfl | hqRest
        · exact absurd rfl hbefore.path_ne
        · exact hRfirst q hqRest
      · rcases List.mem_cons.mp hq with rfl | hqRest
        · exact absurd hbefore (hfirst p hpRest).asymm
        · exact ih hrest hRrest hpRest hqRest

section Children

variable {places : List Place} {f : Place → List Place}

theorem position_of_mem (hf : ∀ p ∈ places, (f p).Sublist p.childElements) {p x : Place}
    (hp : p ∈ places) (hx : x ∈ f p) : ∃ i, x.position = p.position ++ [i] :=
  position_of_mem_childElements ((hf p hp).subset hx)

/-- Children of different elements are different. -/
theorem flatMap_pairwise_path (h : InDocumentOrder places)
    (hf : ∀ p ∈ places, (f p).Sublist p.childElements) :
    (places.flatMap f).Pairwise fun x y => x.path ≠ y.path := by
  rw [List.pairwise_flatMap]
  constructor
  · intro p hp
    exact (p.childElements_pairwise.sublist (hf p hp)).imp Place.Before.path_ne
  · refine h.imp_of_mem ?_
    intro p q hp hq hbefore x hx y hy heq
    obtain ⟨i, hi⟩ := position_of_mem hf hp hx
    obtain ⟨j, hj⟩ := position_of_mem hf hq hy
    rw [Place.path_eq_iff, hi, hj] at heq
    exact hbefore.path_ne (Place.path_eq_iff.mpr (List.append_inj_left' heq rfl))

/-- Children of elements inside another, or of that, lie inside it. -/
theorem isInside_of_mem_flatMap (hf : ∀ p ∈ places, (f p).Sublist p.childElements) {root x : Place}
    (hplaces : ∀ p ∈ places, ∃ rest, p.position = root.position ++ rest)
    (hx : x ∈ places.flatMap f) : x.IsInside root := by
  obtain ⟨p, hp, hx⟩ := List.mem_flatMap.mp hx
  obtain ⟨i, hi⟩ := position_of_mem hf hp hx
  obtain ⟨rest, hrest⟩ := hplaces p hp
  rw [Place.IsInside, hi, hrest]
  cases rest with
  | nil => exact ⟨i, [], by simp⟩
  | cons j rest => exact ⟨j, rest ++ [i], by simp⟩

/-- A child of one element stands before a child of a later one, unless that
lies inside an earlier sibling of it. -/
theorem before_or_isInsideEarlierSibling {p q x y : Place} (h : p.Before q) {i j : Nat}
    (hx : x.position = p.position ++ [i]) (hy : y.position = q.position ++ [j]) :
    x.Before y ∨ y.IsInsideEarlierSibling x := by
  rcases below_or_append_lt_of_lt h with ⟨k, rest, hq⟩ | hpart
  · rw [hq, List.append_assoc, List.cons_append] at hy
    rcases Nat.lt_trichotomy k i with hlt | rfl | hlt
    · exact Or.inr ⟨p.position, k, i, rest ++ [j], hlt, by simp, hy, hx⟩
    · refine Or.inl ?_
      rw [Place.Before, hx, hy]
      refine List.append_left_lt (List.cons_lt_cons_iff.mpr (Or.inr ⟨rfl, ?_⟩))
      cases rest <;> exact List.nil_lt_cons _ _
    · refine Or.inl ?_
      rw [Place.Before, hx, hy]
      exact List.append_left_lt (List.cons_lt_cons_iff.mpr (Or.inl hlt))
  · refine Or.inl ?_
    rw [Place.Before, hx, hy]
    exact hpart _ _

/-- The parent of what lies inside an earlier sibling of a child comes after the
parent of the child. -/
theorem before_of_isInsideEarlierSibling {p q x y : Place} (h : y.IsInsideEarlierSibling x)
    {i j : Nat} (hx : x.position = p.position ++ [i]) (hy : y.position = q.position ++ [j]) :
    p.Before q := by
  obtain ⟨above, k, l, rest, _, hne, hyposition, hxposition⟩ := h
  have habove : p.position = above := List.append_inj_left' (hx.symm.trans hxposition) rfl
  have hlast : q.position = above ++ k :: rest.dropLast := by
    have hdrop := congrArg List.dropLast (hy.symm.trans hyposition)
    rwa [List.dropLast_concat, List.dropLast_append_of_ne_nil (List.cons_ne_nil _ _),
      List.dropLast_cons_of_ne_nil hne] at hdrop
  rw [Place.Before, habove, hlast]
  exact lt_append_cons _ _ _

/-- Children of elements in document order are in document order when none lies
inside an earlier sibling of another. -/
theorem inDocumentOrder_flatMap_iff (h : InDocumentOrder places)
    (hf : ∀ p ∈ places, (f p).Sublist p.childElements) :
    InDocumentOrder (places.flatMap f) ↔
      ∀ x ∈ places.flatMap f, ∀ y ∈ places.flatMap f, ¬y.IsInsideEarlierSibling x := by
  rw [InDocumentOrder, List.pairwise_flatMap]
  constructor
  · rintro ⟨_, hacross⟩ x hx y hy hinside
    obtain ⟨p, hp, hx⟩ := List.mem_flatMap.mp hx
    obtain ⟨q, hq, hy⟩ := List.mem_flatMap.mp hy
    obtain ⟨i, hi⟩ := position_of_mem hf hp hx
    obtain ⟨j, hj⟩ := position_of_mem hf hq hy
    have hbefore := before_of_isInsideEarlierSibling hinside hi hj
    exact hinside.before.asymm (of_pairwise_of_before h hacross hp hq hbefore x hx y hy)
  · intro hinside
    constructor
    · intro p hp
      exact p.childElements_pairwise.sublist (hf p hp)
    · refine h.imp_of_mem ?_
      intro p q hp hq hbefore x hx y hy
      obtain ⟨i, hi⟩ := position_of_mem hf hp hx
      obtain ⟨j, hj⟩ := position_of_mem hf hq hy
      rcases before_or_isInsideEarlierSibling hbefore hi hj with hxy | hyx
      · exact hxy
      · have hx' := List.mem_flatMap.mpr ⟨p, hp, hx⟩
        have hy' := List.mem_flatMap.mpr ⟨q, hq, hy⟩
        exact absurd hyx (hinside x hx' y hy')

end Children

/-! ## Steps for children that descend -/

theorem taken_sublist_children {step : PathStep} (h : step.test.takesChildren = true)
    (c : PathContext) : (step.taken c).Sublist c.children := by
  obtain ⟨places, hsublist, hreached⟩ := reached_of_takesChildren h c
  have hplaces : (step.test.candidates c).filterMap PathItem.place? = places := by
    have hcontexts : itemContexts (step.test.candidates c) = places.map (PathContext.mk false) :=
      hreached
    rw [filterMap_place?, hcontexts, List.map_map]
    exact List.map_id places
  have hkept := (step.survivors_sublist c).filterMap PathItem.place?
  rw [hplaces] at hkept
  exact hkept.trans hsublist

/-- An element and those inside it, for each context of a level. -/
theorem inDocumentOrder_flatMap_elementsBelow {contexts : List PathContext}
    (h : Level contexts) :
    InDocumentOrder (contexts.flatMap fun c => c.element :: c.element.elementsBelow) := by
  rw [InDocumentOrder, List.pairwise_flatMap]
  constructor
  · intro c _
    exact c.element.cons_elementsBelow_pairwise
  · refine h.sorted.imp_of_mem ?_
    intro c d hc hd hbefore x hx y hy
    obtain ⟨rest, hrest⟩ := Place.position_of_mem_cons_elementsBelow hx
    obtain ⟨rest', hrest'⟩ := Place.position_of_mem_cons_elementsBelow hy
    have hlength := Place.length_position_congr (h.aligned c hc d hd).2
    rw [Place.Before, hrest, hrest']
    exact append_lt_append_of_length_eq hbefore hlength _ _

/-- A level that has the document is nothing else. -/
theorem eq_singleton_of_isDocument {contexts : List PathContext} (h : Level contexts) {root : Place}
    (hrooted : ∀ c ∈ contexts, RootedAt root c) {c : PathContext} (hc : c ∈ contexts)
    (hdocument : c.isDocument = true) : contexts = [⟨true, root⟩] := by
  have hall : ∀ d ∈ contexts, d = ⟨true, root⟩ := by
    intro d hd
    have hd' : d.isDocument = true := (h.aligned d hd c hc).1.trans hdocument
    have helement := (hrooted d hd).document hd'
    obtain ⟨isDocument, p⟩ := d
    cases hd'
    cases helement
    rfl
  cases contexts with
  | nil => contradiction
  | cons d rest =>
      obtain ⟨hfirst, _⟩ := List.pairwise_cons.mp h.sorted
      have hrest : rest = [] := by
        rw [List.eq_nil_iff_forall_not_mem]
        intro e he
        apply (hfirst e he).path_ne
        rw [hall d List.mem_cons_self, hall e (List.mem_cons_of_mem d he)]
      rw [hrest, hall d List.mem_cons_self]

/-- The contexts of a step that descends from a level are elements in document
order, and maybe before them the document around these. -/
theorem contexts_of_level {step : PathStep} (h : step.descendant = true) {items : List PathItem}
    (hlevel : Level (itemContexts items)) {root : Place}
    (hrooted : ∀ c ∈ itemContexts items, RootedAt root c) :
    ∃ documents places, step.contexts items = documents ++ places.map (PathContext.mk false) ∧
      InDocumentOrder places ∧
      (documents = [] ∨ documents = [⟨true, root⟩] ∧
        ∀ p ∈ places, ∃ rest, p.position = root.position ++ rest) := by
  have hsorted := inDocumentOrder_flatMap_elementsBelow hlevel
  rw [PathStep.contexts_of_descendant h]
  by_cases hdocument : ∃ c ∈ itemContexts items, c.isDocument = true
  · obtain ⟨c, hc, hdocument⟩ := hdocument
    rw [eq_singleton_of_isDocument hlevel hrooted hc hdocument, List.flatMap_singleton] at hsorted ⊢
    refine ⟨[⟨true, root⟩], root :: root.elementsBelow, rfl, hsorted, Or.inr ⟨rfl, ?_⟩⟩
    intro p hp
    exact Place.position_of_mem_cons_elementsBelow hp
  · refine ⟨[], _, ?_, hsorted, Or.inl rfl⟩
    rw [List.nil_append, List.map_flatMap]
    apply List.flatMap_congr
    intro c hc
    have hfalse : ¬c.isDocument = true := fun htrue => hdocument ⟨c, hc, htrue⟩
    rw [PathContext.withDescendants, if_neg hfalse]

section Root

variable {root p : Place}

theorem not_isInsideEarlierSibling_self : ¬root.IsInsideEarlierSibling root :=
  fun h => h.before.path_ne rfl

/-- An element has no earlier sibling that what is inside it lies in. -/
theorem not_isInsideEarlierSibling_of_isInside (h : p.IsInside root) :
    ¬p.IsInsideEarlierSibling root :=
  fun hinside => h.before.asymm hinside.before

/-- An element does not lie inside a sibling of what is inside it. -/
theorem not_isInsideEarlierSibling_root (h : p.IsInside root) :
    ¬root.IsInsideEarlierSibling p := by
  rintro ⟨above, i, j, rest, _, hne, hroot, hp⟩
  obtain ⟨k, inner, hinner⟩ := h
  have hlength := congrArg List.length (hp.symm.trans hinner)
  have hpos := List.length_pos_of_ne_nil hne
  rw [hroot] at hlength
  simp only [List.length_append, List.length_cons, List.length_nil] at hlength
  omega

/-- The outermost element in front of what is inside it adds nothing to its
order. -/
theorem inDocumentOrder_root_iff {first places : List Place} (hfirst : first.Sublist [root])
    (hplaces : ∀ p ∈ places, p.IsInside root) :
    (InDocumentOrder (first ++ places) ↔ InDocumentOrder places) ∧
    ((∀ x ∈ first ++ places, ∀ y ∈ first ++ places, ¬y.IsInsideEarlierSibling x) ↔
      ∀ x ∈ places, ∀ y ∈ places, ¬y.IsInsideEarlierSibling x) := by
  have hroot : ∀ x ∈ first, x = root := fun x hx => List.mem_singleton.mp (hfirst.subset hx)
  constructor
  · rw [InDocumentOrder, List.pairwise_append]
    constructor
    · exact fun h => h.2.1
    · intro h
      refine ⟨(List.pairwise_singleton _ root).sublist hfirst, h, ?_⟩
      intro x hx y hy
      rw [hroot x hx]
      exact (hplaces y hy).before
  · constructor
    · intro h x hx y hy
      exact h x (List.mem_append_right _ hx) y (List.mem_append_right _ hy)
    · intro h x hx y hy
      rcases List.mem_append.mp hx with hx | hx
      · rw [hroot x hx]
        rcases List.mem_append.mp hy with hy | hy
        · rw [hroot y hy]
          exact not_isInsideEarlierSibling_self
        · exact not_isInsideEarlierSibling_of_isInside (hplaces y hy)
      · rcases List.mem_append.mp hy with hy | hy
        · rw [hroot y hy]
          exact not_isInsideEarlierSibling_root (hplaces x hx)
        · exact h x hx y hy

end Root

/-- **Order of descending steps.**  A path of which only the last step descends,
and that for children, finds its elements in document order exactly when none of
them lies inside an earlier sibling of another. -/
theorem inDocumentOrder_of_descendant_iff {path : LocationPath} {before : List PathStep}
    {last : PathStep} (h : path.steps = before ++ [last])
    (hbefore : ∀ s ∈ before, s.descendant = false) (hlast : last.descendant = true)
    (htest : last.test.takesChildren = true) {element : Place}
    (helement : element.isElement = true) :
    InDocumentOrder (path.elements element) ↔
      ∀ x ∈ path.elements element, ∀ y ∈ path.elements element,
        ¬y.IsInsideEarlierSibling x := by
  by_cases hsome : (path.evaluate element).isSome = true
  swap
  · rw [LocationPath.elements_eq_nil hsome]
    simp [InDocumentOrder]
  have hlevel : Level (itemContexts (LocationPath.found ⟨path.absolute, before⟩ element)) :=
    level_found hbefore element
  have hrooted : ∀ c ∈ itemContexts (LocationPath.found ⟨path.absolute, before⟩ element),
      RootedAt (outermostElement element) c := rootedAt_found hbefore helement
  obtain ⟨documents, places, hcontexts, hsorted, hdocuments⟩ :=
    contexts_of_level hlast hlevel hrooted
  have hf : ∀ p ∈ places, (last.taken ⟨false, p⟩).Sublist p.childElements :=
    fun p _ => taken_sublist_children htest ⟨false, p⟩
  have hdistinct := flatMap_pairwise_path hsorted hf
  have hiff := inDocumentOrder_flatMap_iff hsorted hf
  rw [LocationPath.elements_eq h hsome, hcontexts, List.flatMap_append, List.flatMap_map]
  rcases hdocuments with rfl | ⟨rfl, hinside⟩
  · rw [List.flatMap_nil, List.nil_append, firstPlaces_eq_self hdistinct (by simp)]
    exact hiff
  · rw [List.flatMap_singleton]
    have hfirst : (last.taken ⟨true, outermostElement element⟩).Sublist
        [outermostElement element] := taken_sublist_children htest _
    have hplaces : ∀ x ∈ places.flatMap fun p => last.taken ⟨false, p⟩,
        x.IsInside (outermostElement element) := fun x hx => isInside_of_mem_flatMap hf hinside hx
    obtain ⟨hiffOrder, hiffInside⟩ := inDocumentOrder_root_iff hfirst hplaces
    rw [firstPlaces_eq_self ?_ (by simp), hiffOrder, hiffInside]
    · exact hiff
    · rw [List.pairwise_append]
      refine ⟨(List.pairwise_singleton _ _).sublist hfirst, hdistinct, ?_⟩
      intro x hx y hy
      rw [List.mem_singleton.mp (hfirst.subset hx)]
      exact (hplaces y hy).before.path_ne

/-- **Order of elements.**  The elements that a path finds are in document order
whenever no step descends; when only the last step does, and that for children,
they are exactly when none of them lies inside an earlier sibling of another;
and in every case, if the path has an answer, they are exactly when what the last
step newly takes from each of its contexts stands after all that it took from
those before. -/
theorem inDocumentOrder_elements_iff (path : LocationPath) (element : Place) :
    ((∀ s ∈ path.steps, s.descendant = false) → InDocumentOrder (path.elements element)) ∧
    ∀ before last, path.steps = before ++ [last] →
      ((∀ s ∈ before, s.descendant = false) → last.descendant = true →
        last.test.takesChildren = true → element.isElement = true →
          (InDocumentOrder (path.elements element) ↔
            ∀ x ∈ path.elements element, ∀ y ∈ path.elements element,
              ¬y.IsInsideEarlierSibling x)) ∧
      ((path.evaluate element).isSome = true →
        (InDocumentOrder (path.elements element) ↔
          ∀ front c back,
            last.contexts (LocationPath.found ⟨path.absolute, before⟩ element) =
              front ++ c :: back →
            ∀ x ∈ front.flatMap last.taken, ∀ y ∈ last.taken c,
              (∀ z ∈ front.flatMap last.taken, z.path ≠ y.path) → x.Before y)) := by
  refine ⟨fun h => inDocumentOrder_of_not_descendant h element, ?_⟩
  intro before last hsteps
  constructor
  · intro hbefore hlast htest helement
    exact inDocumentOrder_of_descendant_iff hsteps hbefore hlast htest helement
  · intro hsome
    rw [LocationPath.elements_eq hsteps hsome]
    exact inDocumentOrder_firstPlaces_flatMap_iff last _

/-- A paragraph. -/
def paragraph (text : String) : Node := .element ⟨.html, "p", []⟩ [.text text]

/-- A body with a paragraph in a division, and one behind it. -/
def dividedBody : Node :=
  .element ⟨.html, "body", []⟩ [.element ⟨.html, "div", []⟩ [paragraph "one"], paragraph "two"]

/-- The path `//p`. -/
def everyParagraph : LocationPath := ⟨true, [⟨true, .name "p", []⟩]⟩

theorem isSome_evaluate_everyParagraph (element : Place) :
    (everyParagraph.evaluate element).isSome = true :=
  LocationPath.isSome_evaluate (by simp [everyParagraph]) element

/-- Paragraphs of different parents are not found in the order in which they
stand. -/
theorem not_inDocumentOrder_everyParagraph :
    ∃ results, evaluatePath (Place.root dividedBody) "//p".toList = .ok results ∧
      (results.filterMap PathResult.place?).map Place.outer = ["<p>two</p>", "<p>one</p>"] ∧
      ¬InDocumentOrder (results.filterMap PathResult.place?) := by
  have hsome := isSome_evaluate_everyParagraph (Place.root dividedBody)
  refine ⟨_, evaluatePath_of_isSome (by decide +kernel) (by decide +kernel) hsome, ?_⟩
  have hsteps : everyParagraph.steps = [] ++ [⟨true, .name "p", []⟩] := rfl
  change (everyParagraph.elements (Place.root dividedBody)).map Place.outer = _ ∧
    ¬InDocumentOrder (everyParagraph.elements (Place.root dividedBody))
  rw [LocationPath.elements_eq hsteps hsome]
  decide +kernel

end Folio.Rule
