import Folio.Proofs.Markup.Place

/-!
# Folio.Proofs.Markup.Tree

The places of one tree.  A place is one of a tree when it is reached from the
root by going from nodes to their children; it is then known by its path alone
(`Within.eq_of_path_eq`), and so are the places around it and inside it.
`below` lists what a place encloses (`mem_below_iff`).
-/

namespace Folio.Markup.Place

/-! ## Children -/

theorem mem_siblingsFrom_iff {parent : Node} {trail : List Descent} {index : Nat}
    {ns : List Node} {q : Place} :
    q ∈ siblingsFrom parent trail index ns ↔
      ∃ i n, ns[i]? = some n ∧ q = ⟨n, ⟨parent, index + i⟩ :: trail⟩ := by
  induction ns generalizing index with
  | nil => simp [siblingsFrom]
  | cons n ns ih =>
      rw [siblingsFrom, List.mem_cons, ih]
      constructor
      · rintro (rfl | ⟨i, m, hm, rfl⟩)
        · exact ⟨0, n, rfl, rfl⟩
        · refine ⟨i + 1, m, hm, ?_⟩
          rw [Nat.add_assoc, Nat.add_comm 1 i]
      · rintro ⟨i, m, hm, rfl⟩
        cases i with
        | zero =>
            obtain rfl := Option.some.inj hm
            exact Or.inl rfl
        | succ i =>
            refine Or.inr ⟨i, m, hm, ?_⟩
            rw [Nat.add_assoc, Nat.add_comm 1 i]

/-- A child is a node among the children, with the step that leads to it. -/
theorem mem_children_iff {p q : Place} :
    q ∈ p.children ↔
      ∃ i n, p.node.children[i]? = some n ∧ q = ⟨n, ⟨p.node, i⟩ :: p.trail⟩ := by
  rw [children, mem_siblingsFrom_iff]
  simp only [Nat.zero_add]

/-- What is inside a place are its children, each followed by what is inside
it. -/
theorem below_eq (p : Place) : p.below = p.children.flatMap fun q => q :: q.below := by
  have hall : ∀ (ns : List Node) (parent : Node) (trail : List Descent) (index : Nat),
      insideAll parent trail [] index ns =
        (siblingsFrom parent trail index ns).flatMap fun q => q :: q.below := by
    intro ns parent trail index
    induction ns generalizing index with
    | nil => rfl
    | cons n ns ih =>
        rw [insideAll, inside_append, siblingsFrom, List.flatMap_cons, ih, List.cons_append]
        rfl
  obtain ⟨n, trail⟩ := p
  cases n with
  | document ns => exact hall ns _ _ _
  | fragment ns => exact hall ns _ _ _
  | element tag ns => exact hall ns _ _ _
  | text content => rfl
  | comment content => rfl
  | doctype name => rfl

/-! ## What a place encloses -/

/-- A place encloses another: that one is reached from it by going from nodes to
their children. -/
inductive Encloses : Place → Place → Prop
  | child {p q : Place} (h : q ∈ p.children) : Encloses p q
  | deeper {p q r : Place} (h : q ∈ p.children) (inner : Encloses q r) : Encloses p r

theorem mem_below_of_encloses {p q : Place} (h : p.Encloses q) : q ∈ p.below := by
  induction h with
  | @child p q hq =>
      rw [below_eq]
      exact List.mem_flatMap.mpr ⟨q, hq, List.mem_cons_self⟩
  | @deeper p q r hq _ ih =>
      rw [below_eq]
      exact List.mem_flatMap.mpr ⟨q, hq, List.mem_cons_of_mem q ih⟩

theorem sizeOf_children_le (n : Node) : sizeOf n.children ≤ sizeOf n := by
  cases n with
  | document ns => simp [Node.children]
  | fragment ns => simp [Node.children]
  | element tag ns => simp [Node.children]
  | text content => simp [Node.children]
  | comment content => simp [Node.children]
  | doctype name => simp [Node.children]

theorem sizeOf_lt_of_mem_children {p q : Place} (h : q ∈ p.children) :
    sizeOf q.node < sizeOf p.node := by
  obtain ⟨i, n, hn, rfl⟩ := mem_children_iff.mp h
  have hmem : n ∈ p.node.children := List.mem_of_getElem? hn
  exact Nat.lt_of_lt_of_le (List.sizeOf_lt_of_mem hmem) (sizeOf_children_le p.node)

theorem encloses_of_mem_below {p q : Place} (h : q ∈ p.below) : p.Encloses q := by
  rw [below_eq] at h
  obtain ⟨c, hc, hq⟩ := List.mem_flatMap.mp h
  rcases List.mem_cons.mp hq with rfl | hq
  · exact .child hc
  · exact .deeper hc (encloses_of_mem_below hq)
termination_by sizeOf p.node
decreasing_by exact sizeOf_lt_of_mem_children hc

/-- The places listed as inside a place are those that it encloses. -/
@[simp] theorem mem_below_iff {p q : Place} : q ∈ p.below ↔ p.Encloses q :=
  ⟨encloses_of_mem_below, mem_below_of_encloses⟩

@[simp] theorem mem_elementsBelow_iff {p q : Place} :
    q ∈ p.elementsBelow ↔ p.Encloses q ∧ q.isElement = true := by
  rw [elementsBelow, List.mem_filter, mem_below_iff]

theorem isInside_of_encloses {p q : Place} (h : p.Encloses q) : q.IsInside p :=
  isInside_of_mem_below (mem_below_of_encloses h)

theorem Encloses.trans {p q r : Place} (h : p.Encloses q) (hr : q.Encloses r) :
    p.Encloses r := by
  induction h with
  | child hq => exact .deeper hq hr
  | deeper hq _ ih => exact .deeper hq (ih hr)

/-- What stands at two places, one before the other with all that is inside it, or inside
them, is in their order. -/
theorem Precedes.before_of_encloses {p q x y : Place} (h : p.Precedes q)
    (hx : x = p ∨ p.Encloses x) (hy : y = q ∨ q.Encloses y) : x.Before y := by
  have hposition {r z : Place} (hz : z = r ∨ r.Encloses z) :
      ∃ rest, z.position = r.position ++ rest := by
    rcases hz with rfl | hz
    · exact ⟨[], (List.append_nil _).symm⟩
    · obtain ⟨i, rest, hinside⟩ := isInside_of_encloses hz
      exact ⟨i :: rest, hinside⟩
  obtain ⟨s, hs⟩ := hposition hx
  obtain ⟨t, ht⟩ := hposition hy
  exact (h.append hs ht).before

/-- What a place encloses and lies inside one of its children is enclosed by that child. -/
theorem encloses_of_mem_children {p q r : Place} (hq : q ∈ p.children) (hr : p.Encloses r)
    (h : r.IsInside q) : q.Encloses r := by
  obtain ⟨i, n, hn, rfl⟩ := mem_children_iff.mp hq
  obtain ⟨k, rest, hposition⟩ := h
  rw [position_child] at hposition
  cases hr with
  | child hr =>
      obtain ⟨j, m, _, rfl⟩ := mem_children_iff.mp hr
      rw [position_child] at hposition
      have hlength := congrArg List.length hposition
      simp only [List.length_append, List.length_cons, List.length_nil] at hlength
      omega
  | @deeper _ q' _ hq' inner =>
      obtain ⟨j, m, hm, rfl⟩ := mem_children_iff.mp hq'
      obtain ⟨l, rest', hinner⟩ := isInside_of_encloses inner
      rw [position_child, hposition, List.append_assoc, List.append_assoc,
        List.append_cancel_left_eq] at hinner
      obtain rfl : i = j := (List.cons.inj hinner).1
      rw [hn] at hm
      obtain rfl := Option.some.inj hm
      exact inner

/-- Of two places that a third encloses, one encloses the other when that lies inside
it. -/
theorem encloses_of_isInside {p q r : Place} (hq : p.Encloses q) (hr : p.Encloses r)
    (h : r.IsInside q) : q.Encloses r := by
  induction hq with
  | child hq => exact encloses_of_mem_children hq hr h
  | deeper hq inner ih =>
      exact ih (encloses_of_mem_children hq hr (h.trans (isInside_of_encloses inner))) h

/-! ## Places of a tree -/

/-- The place is one of a tree. -/
inductive Within (tree : Node) : Place → Prop
  | root : Within tree (root tree)
  | child {p q : Place} (outer : Within tree p) (h : q ∈ p.children) : Within tree q

namespace Within

variable {tree : Node} {p q : Place}

/-- **Places are known by their paths.** -/
theorem eq_of_path_eq (hp : Within tree p) (hq : Within tree q) (h : p.path = q.path) :
    p = q := by
  induction hp generalizing q with
  | root =>
      cases hq with
      | root => rfl
      | child _ hchild =>
          obtain ⟨i, n, _, rfl⟩ := mem_children_iff.mp hchild
          simp [path, Place.root] at h
  | @child p p' _ hp' ih =>
      obtain ⟨i, n, hn, rfl⟩ := mem_children_iff.mp hp'
      cases hq with
      | root => simp [path, Place.root] at h
      | @child q _ houter hq' =>
          obtain ⟨j, m, hm, rfl⟩ := mem_children_iff.mp hq'
          obtain ⟨hij, hpath⟩ : i = j ∧ p.path = q.path := List.cons.inj h
          obtain rfl := ih houter hpath
          subst hij
          rw [hn] at hm
          rw [Option.some.inj hm]

/-- The node around a place of a tree is one of it. -/
theorem parent {d : Descent} {rest : List Descent} (h : Within tree p)
    (htrail : p.trail = d :: rest) : Within tree ⟨d.parent, rest⟩ := by
  cases h with
  | root => cases htrail
  | child houter hchild =>
      obtain ⟨i, n, _, rfl⟩ := mem_children_iff.mp hchild
      obtain ⟨rfl, rfl⟩ := List.cons.inj htrail
      exact houter

theorem parentElement? {above : Place} (h : Within tree p)
    (habove : p.parentElement? = some above) : Within tree above := by
  rw [Place.parentElement?, Option.filter_eq_some_iff, Place.parent?] at habove
  obtain ⟨hparent, _⟩ := habove
  split at hparent
  · contradiction
  · rename_i d rest htrail
    obtain rfl := Option.some.inj hparent
    exact h.parent htrail

/-- What a place of a tree encloses are places of it. -/
theorem encloses (h : Within tree p) (hq : p.Encloses q) : Within tree q := by
  induction hq with
  | child hchild => exact h.child hchild
  | deeper hchild _ ih => exact ih (h.child hchild)

end Within

end Folio.Markup.Place
