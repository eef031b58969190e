import Folio.Markup.Place

/-!
# Folio.Proofs.Markup.Place

Document order.  The position of a place lists which child was taken at each
level from the root down; document order is the lexicographic order of
positions, in which an element comes before everything inside it and that
before everything inside its later siblings.  `children` and `below` list
places in it.
-/

namespace Folio.Markup

/-! ## Positions -/

/-- Of two positions in order the second lies below the first, or they part and
whatever follows them is in their order. -/
theorem below_or_append_lt_of_lt {a b : List Nat} (h : a < b) :
    (∃ i rest, b = a ++ i :: rest) ∨ ∀ s t, a ++ s < b ++ t := by
  induction a generalizing b with
  | nil =>
      cases b with
      | nil => exact absurd h (List.lt_irrefl [])
      | cons j b => exact Or.inl ⟨j, b, rfl⟩
  | cons i a ih =>
      cases b with
      | nil => exact absurd h (List.not_lt_nil _)
      | cons j b =>
          rcases List.cons_lt_cons_iff.mp h with hlt | ⟨rfl, hlt⟩
          · exact Or.inr fun s t => List.cons_lt_cons_iff.mpr (Or.inl hlt)
          · rcases ih hlt with ⟨k, rest, rfl⟩ | hpart
            · exact Or.inl ⟨k, rest, rfl⟩
            · exact Or.inr fun s t => List.cons_lt_cons_iff.mpr (Or.inr ⟨rfl, hpart s t⟩)

/-- Whatever follows them, positions of one length stay in their order. -/
theorem append_lt_append_of_length_eq {a b : List Nat} (h : a < b) (hlength : a.length = b.length)
    (s t : List Nat) : a ++ s < b ++ t := by
  rcases below_or_append_lt_of_lt h with ⟨i, rest, rfl⟩ | hpart
  · rw [List.length_append, List.length_cons] at hlength
    omega
  · exact hpart s t

/-- A position comes before those further down. -/
theorem lt_append_cons (a : List Nat) (i : Nat) (rest : List Nat) : a < a ++ i :: rest := by
  have h : a ++ [] < a ++ i :: rest := List.append_left_lt (List.nil_lt_cons i rest)
  rwa [List.append_nil] at h

/-- Fronts of positions in order are equal or in order. -/
theorem take_lt_take_or_eq {a b : List Nat} (h : a < b) (n : Nat) :
    a.take n < b.take n ∨ a.take n = b.take n := by
  induction n generalizing a b with
  | zero => exact Or.inr rfl
  | succ n ih =>
      cases b with
      | nil => exact absurd h (List.not_lt_nil a)
      | cons j b =>
          cases a with
          | nil => exact Or.inl (List.nil_lt_cons j (b.take n))
          | cons i a =>
              rw [List.take_succ_cons, List.take_succ_cons]
              rcases List.cons_lt_cons_iff.mp h with hlt | ⟨rfl, hlt⟩
              · exact Or.inl (List.cons_lt_cons_iff.mpr (Or.inl hlt))
              · rcases ih hlt with hfront | heq
                · exact Or.inl (List.cons_lt_cons_iff.mpr (Or.inr ⟨rfl, hfront⟩))
                · exact Or.inr (by rw [heq])

namespace Place

/-- The child positions on the way from the root, the first first. -/
def position (p : Place) : List Nat := p.path.reverse

/-- Document order. -/
def Before (p q : Place) : Prop := p.position < q.position

instance : DecidableRel Before := fun p q => inferInstanceAs (Decidable (p.position < q.position))

/-- A place comes before another or stands where that does. -/
def BeforeOrAt (p q : Place) : Prop := p.Before q ∨ p.position = q.position

/-- A place lies inside another. -/
def IsInside (p q : Place) : Prop := ∃ i rest, p.position = q.position ++ i :: rest

/-- A place lies inside a sibling of another that stands before that other. -/
def IsInsideEarlierSibling (p q : Place) : Prop :=
  ∃ above i j rest, i < j ∧ rest ≠ [] ∧ p.position = above ++ i :: rest ∧
    q.position = above ++ [j]

/-- Paths are positions read from the end. -/
theorem path_eq_iff {p q : Place} : p.path = q.path ↔ p.position = q.position :=
  List.reverse_inj.symm

/-- No place is both before and behind another. -/
theorem Before.asymm {p q : Place} (h : p.Before q) : ¬q.Before p := List.lt_asymm h

/-- Places in order are different. -/
theorem Before.path_ne {p q : Place} (h : p.Before q) : p.path ≠ q.path := by
  intro heq
  rw [path_eq_iff] at heq
  rw [Before, heq] at h
  exact List.lt_irrefl _ h

/-- An element comes before what is inside it. -/
theorem IsInside.before {p q : Place} (h : p.IsInside q) : q.Before p := by
  obtain ⟨i, rest, hp⟩ := h
  rw [Before, hp]
  exact lt_append_cons _ _ _

/-- What lies inside an earlier sibling comes before. -/
theorem IsInsideEarlierSibling.before {p q : Place} (h : p.IsInsideEarlierSibling q) :
    p.Before q := by
  obtain ⟨above, i, j, rest, hlt, _, hp, hq⟩ := h
  rw [Before, hp, hq]
  exact List.append_left_lt (List.cons_lt_cons_iff.mpr (Or.inl hlt))

/-- What is inside something inside is inside. -/
theorem IsInside.trans {p q r : Place} (h : p.IsInside q) (hr : q.IsInside r) : p.IsInside r := by
  obtain ⟨i, rest, hp⟩ := h
  obtain ⟨j, inner, hq⟩ := hr
  exact ⟨j, inner ++ i :: rest, by rw [hp, hq, List.append_assoc, List.cons_append]⟩

/-- A place with all that is inside it comes before another with all that is inside
that. -/
def Precedes (p q : Place) : Prop := ∀ s t, p.position ++ s < q.position ++ t

/-- An earlier sibling stands before what is behind it. -/
theorem Precedes.before {p q : Place} (h : p.Precedes q) : p.Before q := by
  have hpart := h [] []
  rwa [List.append_nil, List.append_nil] at hpart

/-- What is inside them keeps the order. -/
theorem Precedes.append {p q x y : Place} (h : p.Precedes q) {s t : List Nat}
    (hx : x.position = p.position ++ s) (hy : y.position = q.position ++ t) : x.Precedes y := by
  intro s' t'
  rw [hx, hy, List.append_assoc, List.append_assoc]
  exact h _ _

/-- Of two places in order the second lies inside the first, or all of it comes after all
of that. -/
theorem Before.isInside_or_precedes {p q : Place} (h : p.Before q) :
    q.IsInside p ∨ p.Precedes q :=
  below_or_append_lt_of_lt h

/-! ## Children -/

@[simp] theorem position_child (n : Node) (d : Descent) (trail : List Descent) :
    position ⟨n, d :: trail⟩ = position ⟨d.parent, trail⟩ ++ [d.index] := by
  simp [position, path]

theorem trail_of_mem_siblingsFrom {parent : Node} {trail : List Descent} {index : Nat}
    {ns : List Node} {p : Place} (h : p ∈ siblingsFrom parent trail index ns) :
    ∃ i, index ≤ i ∧ p.trail = ⟨parent, i⟩ :: trail := by
  induction ns generalizing index with
  | nil => simp [siblingsFrom] at h
  | cons n ns ih =>
      rw [siblingsFrom, List.mem_cons] at h
      rcases h with rfl | h
      · exact ⟨index, Nat.le_refl _, rfl⟩
      · obtain ⟨i, hi, htrail⟩ := ih h
        exact ⟨i, by omega, htrail⟩

/-- The trail of a child is that of its parent and one step more. -/
theorem trail_of_mem_children {p q : Place} (h : q ∈ p.children) :
    ∃ i, q.trail = ⟨p.node, i⟩ :: p.trail := by
  obtain ⟨i, _, htrail⟩ := trail_of_mem_siblingsFrom h
  exact ⟨i, htrail⟩

theorem position_of_trail {p q : Place} {i : Nat} (h : q.trail = ⟨p.node, i⟩ :: p.trail) :
    q.position = p.position ++ [i] := by
  simp [position, path, h]

/-- Siblings stand in order. -/
theorem siblingsFrom_pairwise (parent : Node) (trail : List Descent) (index : Nat)
    (ns : List Node) : (siblingsFrom parent trail index ns).Pairwise Before := by
  induction ns generalizing index with
  | nil => simp [siblingsFrom]
  | cons n ns ih =>
      rw [siblingsFrom, List.pairwise_cons]
      refine ⟨?_, ih (index + 1)⟩
      intro q hq
      obtain ⟨i, hi, htrail⟩ := trail_of_mem_siblingsFrom hq
      have hposition : q.position = position ⟨parent, trail⟩ ++ [i] := position_of_trail htrail
      rw [Before, position_child, hposition]
      exact List.append_left_lt (List.cons_lt_cons_iff.mpr (Or.inl hi))

/-- The children of a place are in document order. -/
theorem children_pairwise (p : Place) : p.children.Pairwise Before :=
  siblingsFrom_pairwise p.node p.trail 0 p.node.children

/-- Child elements stand in order. -/
theorem childElements_pairwise (p : Place) : p.childElements.Pairwise Before :=
  p.children_pairwise.sublist List.filter_sublist

/-! ## Descendants -/

mutual

/-- What is inside a node stands in front of the given places. -/
theorem inside_append (trail : List Descent) (after : List Place) (n : Node) :
    inside trail after n = inside trail [] n ++ after := by
  cases n with
  | document ns => simp only [inside, insideAll_append _ trail after 0 ns]
  | fragment ns => simp only [inside, insideAll_append _ trail after 0 ns]
  | element tag ns => simp only [inside, insideAll_append _ trail after 0 ns]
  | text content => simp only [inside, List.nil_append]
  | comment content => simp only [inside, List.nil_append]
  | doctype name => simp only [inside, List.nil_append]

/-- Children and what is inside them stand in front of the given places. -/
theorem insideAll_append (parent : Node) (trail : List Descent) (after : List Place) (index : Nat)
    (ns : List Node) :
    insideAll parent trail after index ns = insideAll parent trail [] index ns ++ after := by
  cases ns with
  | nil => simp only [insideAll, List.nil_append]
  | cons n ns =>
      rw [insideAll, insideAll, inside_append _ (insideAll parent trail after (index + 1) ns),
        inside_append _ (insideAll parent trail [] (index + 1) ns),
        insideAll_append parent trail after (index + 1) ns, List.cons_append, List.append_assoc]

end

/-- The places are in document order, and all lie inside the children from the
position `index` on of the place at the position `above`. -/
def SortedWithin (above : List Nat) (index : Nat) (places : List Place) : Prop :=
  places.Pairwise Before ∧
    ∀ q ∈ places, ∃ i rest, index ≤ i ∧ q.position = above ++ i :: rest

/-- A child, what is inside it, and what is inside its later siblings. -/
theorem sortedWithin_cons {p : Place} {above : List Nat} {index : Nat} {inner later : List Place}
    (hp : p.position = above ++ [index]) (hinner : SortedWithin p.position 0 inner)
    (hlater : SortedWithin above (index + 1) later) :
    SortedWithin above index (p :: inner ++ later) := by
  obtain ⟨hinnerSorted, hinnerMem⟩ := hinner
  obtain ⟨hlaterSorted, hlaterMem⟩ := hlater
  have hfirst : ∀ q ∈ p :: inner, ∃ rest, q.position = above ++ index :: rest := by
    intro q hq
    rcases List.mem_cons.mp hq with rfl | hq
    · exact ⟨[], hp⟩
    · obtain ⟨i, rest, _, hposition⟩ := hinnerMem q hq
      refine ⟨i :: rest, ?_⟩
      simp [hposition, hp]
  constructor
  · rw [List.pairwise_append, List.pairwise_cons]
    refine ⟨⟨?_, hinnerSorted⟩, hlaterSorted, ?_⟩
    · intro q hq
      obtain ⟨i, rest, _, hposition⟩ := hinnerMem q hq
      exact IsInside.before ⟨i, rest, hposition⟩
    · intro q hq r hr
      obtain ⟨rest, hposition⟩ := hfirst q hq
      obtain ⟨i, rest', hi, hposition'⟩ := hlaterMem r hr
      rw [Before, hposition, hposition']
      exact List.append_left_lt (List.cons_lt_cons_iff.mpr (Or.inl hi))
  · intro q hq
    rcases List.mem_append.mp hq with hq | hq
    · obtain ⟨rest, hposition⟩ := hfirst q hq
      exact ⟨index, rest, Nat.le_refl _, hposition⟩
    · obtain ⟨i, rest, hi, hposition⟩ := hlaterMem q hq
      exact ⟨i, rest, by omega, hposition⟩

mutual

/-- What is inside a node stands in document order, all of it below the node. -/
theorem sortedWithin_inside (n : Node) (trail : List Descent) :
    SortedWithin (position ⟨n, trail⟩) 0 (inside trail [] n) := by
  cases n with
  | document ns => exact sortedWithin_insideAll ns (.document ns) trail 0
  | fragment ns => exact sortedWithin_insideAll ns (.fragment ns) trail 0
  | element tag ns => exact sortedWithin_insideAll ns (.element tag ns) trail 0
  | text content => simp [inside, SortedWithin]
  | comment content => simp [inside, SortedWithin]
  | doctype name => simp [inside, SortedWithin]

/-- So does what is inside trees in a row, from an index on. -/
theorem sortedWithin_insideAll (ns : List Node) (parent : Node) (trail : List Descent)
    (index : Nat) :
    SortedWithin (position ⟨parent, trail⟩) index (insideAll parent trail [] index ns) := by
  cases ns with
  | nil => simp [insideAll, SortedWithin]
  | cons n ns =>
      rw [insideAll, inside_append, ← List.cons_append]
      exact sortedWithin_cons (position_child _ _ _)
        (sortedWithin_inside n (⟨parent, index⟩ :: trail))
        (sortedWithin_insideAll ns parent trail (index + 1))

end

/-- **Document order.**  What is inside a place is listed in document order. -/
theorem below_pairwise (p : Place) : p.below.Pairwise Before :=
  (sortedWithin_inside p.node p.trail).1

/-- What is below a place is inside it. -/
theorem isInside_of_mem_below {p q : Place} (h : q ∈ p.below) : q.IsInside p := by
  obtain ⟨i, rest, _, hposition⟩ := (sortedWithin_inside p.node p.trail).2 q h
  exact ⟨i, rest, hposition⟩

/-- An element and those inside it are in document order. -/
theorem cons_elementsBelow_pairwise (p : Place) : (p :: p.elementsBelow).Pairwise Before := by
  rw [List.pairwise_cons]
  refine ⟨?_, p.below_pairwise.sublist List.filter_sublist⟩
  intro q hq
  exact (isInside_of_mem_below (List.mem_filter.mp hq).1).before

/-- The position of an element below goes on from that of the place. -/
theorem position_of_mem_cons_elementsBelow {p q : Place} (h : q ∈ p :: p.elementsBelow) :
    ∃ rest, q.position = p.position ++ rest := by
  rcases List.mem_cons.mp h with rfl | h
  · exact ⟨[], (List.append_nil _).symm⟩
  · obtain ⟨i, rest, hposition⟩ := isInside_of_mem_below (List.mem_filter.mp h).1
    exact ⟨i :: rest, hposition⟩

/-! ## Outlines -/

/-- Which nodes from a place up to the root are elements. -/
def outline (p : Place) : List Bool := p.isElement :: p.trail.map (·.parent.isElement)

/-- Places with one outline stand equally deep. -/
theorem length_position_congr {p q : Place} (h : p.outline = q.outline) :
    p.position.length = q.position.length := by
  have hlength (r : Place) : r.position.length + 1 = r.outline.length := by
    simp [position, path, outline]
  have hp := hlength p
  rw [h, ← hlength q] at hp
  omega

/-- Places further up are in the order of the places below them, where they
differ. -/
theorem beforeOrAt_of_suffix {p q above above' : Place} (hp : above.trail <:+ p.trail)
    (hq : above'.trail <:+ q.trail) (hlevel : above.outline = above'.outline)
    (h : p.Before q) : above.BeforeOrAt above' := by
  have hfront {r s : Place} (hs : s.trail <:+ r.trail) :
      s.position = r.position.take s.position.length := by
    rw [← List.prefix_iff_eq_take, position, position, List.reverse_prefix]
    exact hs.map _
  rw [BeforeOrAt, Before, hfront hp, hfront hq, length_position_congr hlevel]
  exact take_lt_take_or_eq h _

end Place

end Folio.Markup
