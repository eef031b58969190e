import Folio.Markup.Parser
import Folio.Proofs.Markup.Place
import Folio.Proofs.Markup.Words

/-!
# Folio.Proofs.Markup.Flatten

Flattened text loses nothing and merges nothing.  A tree is read as the
sequence of its marks: the characters of its texts and the edges of its
elements, in document order.  Flattened text has all characters of it but the
blanks, in words that are parted at every blank and every edge of a block and
at nothing else (`IsFlattened`).

The contents of templates hang in the tree as fragments, which are no elements,
and flattening passes them over.  So its result is the flattened text of the
tree exactly when they make no difference to it (`isFlattened_flatText_iff`).
-/

namespace Folio.Markup

open Folio.Text

/-! ## Marks -/

/-- What is met when a tree is read in document order. -/
inductive Sign where
  | character (c : Char)
  /-- The start or the end of an element. -/
  | edge (tag : Tag)
deriving DecidableEq, Repr

namespace Sign

/-- The character, if it is one that is not blank. -/
def visible? : Sign → Option Char
  | character c => if isBlank c then none else some c
  | edge _ => none

/-- Words are parted here: at a blank, and at the edge of a block. -/
def parts : Sign → Bool
  | character c => isBlank c
  | edge tag => isBlock tag

end Sign

/-- A sign at its place in the tree. -/
structure Mark where
  sign : Sign
  /-- It stands in a fragment, as the contents of templates do. -/
  hidden : Bool
deriving DecidableEq, Repr

mutual

/-- The marks of a node. -/
def marks (hidden : Bool) : Node → List Mark
  | .document children => marksAll true children
  | .fragment children => marksAll true children
  | .element tag children =>
    ⟨.edge tag, hidden⟩ :: (marksAll hidden children ++ [⟨.edge tag, hidden⟩])
  | .text content => content.toList.map fun c => ⟨.character c, hidden⟩
  | .comment _ => []
  | .doctype _ => []

/-- The marks of nodes in sequence. -/
def marksAll (hidden : Bool) : List Node → List Mark
  | [] => []
  | n :: rest => marks hidden n ++ marksAll hidden rest

end

/-- The marks of what is inside a node. -/
def Node.marksInside (n : Node) : List Mark := marksAll false n.children

/-- The characters of the text at a place. -/
def Place.text? (p : Place) : Option (List Char) := p.node.text?.map String.toList

/-- The texts inside a node, in document order. -/
def Node.textsInside (n : Node) : List (List Char) := (Place.root n).below.filterMap Place.text?

/-- The characters among marks that are not blank. -/
def visibleOf (ms : List Mark) : List Char := ms.filterMap (·.sign.visible?)

/-- What a mark gives to the text that is then collapsed. -/
def Mark.contribution (m : Mark) : List Char :=
  if m.hidden then []
  else
    match m.sign with
    | .character c => [c]
    | .edge tag => if isBlock tag then [' '] else []

/-- What marks in sequence give to the text that is then collapsed. -/
def contributed (ms : List Mark) : List Char := ms.flatMap Mark.contribution

/-! ## The statement -/

/-- A text is the flattened text of what is inside a node.  It is spaced, and
loses no visible character; its words are parted where the tree parts them, and
joined across the edges of all other elements. -/
structure IsFlattened (n : Node) (s : List Char) : Prop where
  spaced : IsSpaced s
  complete : visible s = visible n.textsInside.flatten
  parted : ∀ before m after, n.marksInside = before ++ m :: after → m.sign.parts = true →
    PartsAt (words s) (visibleOf before) (visibleOf after)
  joined : ∀ before between after, n.marksInside = before ++ (between ++ after) →
    (∃ m ∈ before.getLast?, m.sign.visible?.isSome) →
    (∀ m ∈ between, m.sign.visible? = none ∧ m.sign.parts = false) →
    (∃ m ∈ after.head?, m.sign.visible?.isSome) →
    JoinsAt (words s) (visibleOf before) (visibleOf after)

/-- What is hidden in a tree makes no difference to its text: there is no
visible character in it, and where it parts words they are apart without it. -/
def Node.HidesNothing (n : Node) : Prop :=
  ∀ before m after, n.marksInside = before ++ m :: after → m.hidden = true →
    m.sign.visible? = none ∧
      (m.sign.parts = true → StandApart (contributed before) (contributed after))

/-! ## Texts -/

@[simp] theorem visibleOf_append (first second : List Mark) :
    visibleOf (first ++ second) = visibleOf first ++ visibleOf second :=
  List.filterMap_append

@[simp] theorem visibleOf_cons (m : Mark) (ms : List Mark) :
    visibleOf (m :: ms) = m.sign.visible?.toList ++ visibleOf ms := by
  cases h : m.sign.visible? with
  | none => simp [visibleOf, h]
  | some c => simp [visibleOf, h]

/-- The marks of a text show its characters. -/
theorem visibleOf_characters (hidden : Bool) (s : List Char) :
    visibleOf (s.map fun c => ⟨.character c, hidden⟩) = visible s := by
  induction s with
  | nil => rfl
  | cons c s ih =>
      rw [List.map_cons, visibleOf_cons, ih]
      cases hc : isBlank c with
      | true => simp [visible, Sign.visible?, hc]
      | false => simp [visible, Sign.visible?, hc]

mutual

/-- The visible characters among the marks of a node are those of the texts at
and below it. -/
theorem visibleOf_marks (hidden : Bool) (trail : List Descent) (n : Node) :
    visibleOf (marks hidden n) =
      visible ((Place.mk n trail :: Place.inside trail [] n).filterMap Place.text?).flatten := by
  cases n with
  | document ns => exact visibleOf_marksAll true (.document ns) trail 0 ns
  | fragment ns => exact visibleOf_marksAll true (.fragment ns) trail 0 ns
  | element tag ns =>
      have hall := visibleOf_marksAll hidden (.element tag ns) trail 0 ns
      rw [marks, visibleOf_cons, visibleOf_append, hall]
      exact List.append_nil _
  | text content =>
      rw [marks, visibleOf_characters]
      simp [Place.inside, Place.text?, Node.text?]
  | comment content => rfl
  | doctype name => rfl

/-- The same for nodes in sequence. -/
theorem visibleOf_marksAll (hidden : Bool) (parent : Node) (trail : List Descent) (index : Nat)
    (ns : List Node) :
    visibleOf (marksAll hidden ns) =
      visible ((Place.insideAll parent trail [] index ns).filterMap Place.text?).flatten := by
  cases ns with
  | nil => rfl
  | cons n ns =>
      rw [marksAll, visibleOf_append, visibleOf_marks hidden (⟨parent, index⟩ :: trail) n,
        visibleOf_marksAll hidden parent trail (index + 1) ns, Place.insideAll,
        Place.inside_append _ (Place.insideAll parent trail [] (index + 1) ns),
        ← List.cons_append, List.filterMap_append, List.flatten_append, visible_append]

end

/-- What is below the root is what is inside it. -/
theorem below_root (n : Node) :
    (Place.root n).below = Place.insideAll n [] [] 0 n.children := by
  cases n <;> rfl

/-- The marks show the texts inside the node. -/
@[simp] theorem visibleOf_marksInside (n : Node) :
    visibleOf n.marksInside = visible n.textsInside.flatten := by
  rw [Node.textsInside, below_root]
  exact visibleOf_marksAll false n [] 0 n.children

/-! ## Contributions -/

@[simp] theorem contributed_append (first second : List Mark) :
    contributed (first ++ second) = contributed first ++ contributed second :=
  List.flatMap_append

@[simp] theorem contributed_cons (m : Mark) (ms : List Mark) :
    contributed (m :: ms) = m.contribution ++ contributed ms :=
  List.flatMap_cons

mutual

/-- Everything in a hidden tree is hidden. -/
theorem hidden_of_mem_marks {m : Mark} (n : Node) (h : m ∈ marks true n) : m.hidden = true := by
  cases n with
  | document ns => exact hidden_of_mem_marksAll ns h
  | fragment ns => exact hidden_of_mem_marksAll ns h
  | element tag ns =>
      simp only [marks, List.mem_cons, List.mem_append, List.not_mem_nil, or_false] at h
      rcases h with rfl | h | rfl
      · rfl
      · exact hidden_of_mem_marksAll ns h
      · rfl
  | text content =>
      obtain ⟨c, -, rfl⟩ := List.mem_map.mp h
      rfl
  | comment content => contradiction
  | doctype name => contradiction

/-- So is everything in hidden trees. -/
theorem hidden_of_mem_marksAll {m : Mark} (ns : List Node) (h : m ∈ marksAll true ns) :
    m.hidden = true := by
  cases ns with
  | nil => contradiction
  | cons n ns =>
      rcases List.mem_append.mp h with h | h
      · exact hidden_of_mem_marks n h
      · exact hidden_of_mem_marksAll ns h

end

/-- What is hidden contributes nothing. -/
theorem Mark.contribution_of_hidden {m : Mark} (h : m.hidden = true) : m.contribution = [] :=
  if_pos h

/-- What is hidden gives nothing. -/
@[simp] theorem contributed_marksAll_true (ns : List Node) : contributed (marksAll true ns) = [] :=
  List.flatMap_eq_nil_iff.mpr fun _ hm =>
    Mark.contribution_of_hidden (hidden_of_mem_marksAll ns hm)

/-- A shown text contributes its characters. -/
@[simp] theorem contributed_characters (s : List Char) :
    contributed (s.map fun c => ⟨.character c, false⟩) = s := by
  rw [contributed, List.flatMap_map]
  exact List.flatMap_singleton' s

mutual

/-- A node contributes to flattened text what its marks do. -/
theorem contribution_eq (after : List Char) (n : Node) :
    contribution after n = contributed (marks false n) ++ after := by
  cases n with
  | document ns => rw [marks, contributed_marksAll_true]; rfl
  | fragment ns => rw [marks, contributed_marksAll_true]; rfl
  | element tag ns =>
      rw [contribution, marks, contributed_cons, contributed_append, contributed_cons,
        contributions_eq (' ' :: after) ns, contributions_eq after ns]
      cases hblock : isBlock tag with
      | true => simp [Mark.contribution, hblock, contributed]
      | false => simp [Mark.contribution, hblock, contributed]
  | text content => rw [contribution, marks, contributed_characters]
  | comment content => rfl
  | doctype name => rfl

/-- So do trees in a row. -/
theorem contributions_eq (after : List Char) (ns : List Node) :
    contributions after ns = contributed (marksAll false ns) ++ after := by
  cases ns with
  | nil => rfl
  | cons n ns =>
      rw [contributions, contribution_eq _ n, contributions_eq after ns, marksAll,
        contributed_append, List.append_assoc]

end

/-- The flattened text collapses what the marks contribute. -/
@[simp] theorem toList_flatText (n : Node) :
    (flatText n).toList = collapse (contributed n.marksInside) := by
  simp [flatText, contributions_eq, Node.marksInside]

/-- Collapsing keeps the characters that can be seen. -/
theorem visible_flatText (n : Node) :
    visible (flatText n).toList = visible (contributed n.marksInside) := by
  rw [toList_flatText, visible_collapse]

/-! ## Hidden marks -/

/-- A shown mark gives its visible character, if it has one, and blanks. -/
theorem Mark.visible_contribution {m : Mark} (h : m.hidden = false) :
    visible m.contribution = m.sign.visible?.toList := by
  obtain ⟨sign, hidden⟩ := m
  obtain rfl : hidden = false := h
  cases sign with
  | character c =>
      cases hc : isBlank c with
      | true => simp [Mark.contribution, visible, Sign.visible?, hc]
      | false => simp [Mark.contribution, visible, Sign.visible?, hc]
  | edge tag =>
      have hspace : visible [' '] = [] := rfl
      cases hblock : isBlock tag with
      | true => simp [Mark.contribution, Sign.visible?, hblock, hspace]
      | false => simp [Mark.contribution, Sign.visible?, hblock, visible]

/-- A shown mark that parts words gives a blank. -/
theorem Mark.contribution_of_parts {m : Mark} (h : m.hidden = false)
    (hparts : m.sign.parts = true) : ∃ c, m.contribution = [c] ∧ isBlank c = true := by
  obtain ⟨sign, hidden⟩ := m
  obtain rfl : hidden = false := h
  cases sign with
  | character c => exact ⟨c, rfl, hparts⟩
  | edge tag => exact ⟨' ', if_pos hparts, rfl⟩

/-- A shown mark with a visible character gives that. -/
theorem Mark.contribution_of_visible {m : Mark} (h : m.hidden = false)
    (hvisible : m.sign.visible?.isSome = true) :
    ∃ c, m.contribution = [c] ∧ isBlank c = false := by
  obtain ⟨sign, hidden⟩ := m
  obtain rfl : hidden = false := h
  cases sign with
  | character c =>
      refine ⟨c, rfl, ?_⟩
      by_contra hc
      rw [Bool.not_eq_false] at hc
      simp [Sign.visible?, hc] at hvisible
  | edge tag => contradiction

/-- A mark without a visible character that parts no words gives nothing. -/
theorem Mark.contribution_eq_nil {m : Mark} (hvisible : m.sign.visible? = none)
    (hparts : m.sign.parts = false) : m.contribution = [] := by
  obtain ⟨sign, hidden⟩ := m
  cases sign with
  | character c =>
      have hc : isBlank c = false := hparts
      simp [Sign.visible?, hc] at hvisible
  | edge tag =>
      have hblock : isBlock tag = false := hparts
      simp [Mark.contribution, hblock]

/-- No more is contributed than can be seen. -/
theorem length_visible_contributed_le (ms : List Mark) :
    (visible (contributed ms)).length ≤ (visibleOf ms).length := by
  induction ms with
  | nil => exact Nat.le_refl 0
  | cons m ms ih =>
      rw [contributed_cons, visible_append, visibleOf_cons, List.length_append, List.length_append]
      cases hm : m.hidden with
      | true =>
          have hnone : visible m.contribution = [] := by rw [m.contribution_of_hidden hm]; rfl
          rw [hnone, List.length_nil]
          omega
      | false =>
          rw [m.visible_contribution hm]
          omega

/-- Nothing visible is lost exactly when nothing visible is hidden. -/
theorem visible_contributed_eq_iff (ms : List Mark) :
    visible (contributed ms) = visibleOf ms ↔
      ∀ m ∈ ms, m.hidden = true → m.sign.visible? = none := by
  induction ms with
  | nil => simp [contributed, visible, visibleOf]
  | cons m ms ih =>
      rw [contributed_cons, visible_append, visibleOf_cons, List.forall_mem_cons, ← ih]
      cases hm : m.hidden with
      | false =>
          rw [m.visible_contribution hm, List.append_cancel_left_eq]
          simp
      | true =>
          have hnone : visible m.contribution = [] := by rw [m.contribution_of_hidden hm]; rfl
          rw [hnone, List.nil_append]
          constructor
          · intro heq
            have hlength := congrArg List.length heq
            have hle := length_visible_contributed_le ms
            rw [List.length_append] at hlength
            have hsign : m.sign.visible?.toList = [] := List.eq_nil_of_length_eq_zero (by omega)
            rw [hsign, List.nil_append] at heq
            exact ⟨fun _ => Option.toList_eq_nil_iff.mp hsign, heq⟩
          · rintro ⟨hsign, heq⟩
            rw [hsign rfl, heq]
            rfl

/-! ## Flattened text -/

section Cut

variable {n : Node} {before between after : List Mark} {m : Mark}

/-- Words are parted or joined at a place among the marks as they are in what
the marks contribute, if nothing visible is hidden. -/
theorem sides_eq (h : ∀ m ∈ n.marksInside, m.hidden = true → m.sign.visible? = none)
    (hcut : n.marksInside = before ++ (between ++ after)) :
    visibleOf before = visible (contributed before) ∧
      visibleOf after = visible (contributed after) ∧
      words (flatText n).toList =
        words (contributed before ++ (contributed between ++ contributed after)) := by
  have hstretch {stretch : List Mark} (hsub : stretch ⊆ n.marksInside) :
      visibleOf stretch = visible (contributed stretch) :=
    ((visible_contributed_eq_iff stretch).mpr fun m hm => h m (hsub hm)).symm
  refine ⟨hstretch (by simp [hcut]), hstretch (by simp [hcut]), ?_⟩
  simp [hcut]

/-- At a hidden mark words are parted exactly when they are apart without it. -/
theorem partsAt_hidden_iff (h : ∀ m ∈ n.marksInside, m.hidden = true → m.sign.visible? = none)
    (hcut : n.marksInside = before ++ m :: after) (hhidden : m.hidden = true) :
    PartsAt (words (flatText n).toList) (visibleOf before) (visibleOf after) ↔
      StandApart (contributed before) (contributed after) := by
  obtain ⟨hbefore, hafter, hwords⟩ :=
    sides_eq h (show n.marksInside = before ++ ([m] ++ after) from hcut)
  have hnothing : contributed [m] = [] := by simp [contributed, m.contribution_of_hidden hhidden]
  rw [hbefore, hafter, hwords, hnothing, List.nil_append, partsAt_append_iff]

/-- At a shown blank, and at a shown edge of a block, words are parted. -/
theorem partsAt_shown (h : ∀ m ∈ n.marksInside, m.hidden = true → m.sign.visible? = none)
    (hcut : n.marksInside = before ++ m :: after) (hshown : m.hidden = false)
    (hparts : m.sign.parts = true) :
    PartsAt (words (flatText n).toList) (visibleOf before) (visibleOf after) := by
  obtain ⟨hbefore, hafter, hwords⟩ :=
    sides_eq h (show n.marksInside = before ++ ([m] ++ after) from hcut)
  obtain ⟨c, hc, hblank⟩ := m.contribution_of_parts hshown hparts
  have hblanks : contributed [m] = [c] := by simp [contributed, hc]
  have hcons : visible (c :: contributed after) = visible (contributed after) := by
    simp [visible, hblank]
  rw [hbefore, hafter, hwords, hblanks, List.singleton_append, ← hcons]
  exact partsAt_append (.inr fun d hd => Option.some.inj hd ▸ hblank)

/-- What is hidden shows nothing. -/
theorem Node.HidesNothing.visible?_eq_none (h : n.HidesNothing) :
    ∀ m ∈ n.marksInside, m.hidden = true → m.sign.visible? = none := by
  intro m hm hhidden
  obtain ⟨before, after, hcut⟩ := List.append_of_mem hm
  exact (h before m after hcut hhidden).1

theorem Node.HidesNothing.partsAt (h : n.HidesNothing)
    (hcut : n.marksInside = before ++ m :: after) (hparts : m.sign.parts = true) :
    PartsAt (words (flatText n).toList) (visibleOf before) (visibleOf after) := by
  cases hm : m.hidden with
  | true =>
      rw [partsAt_hidden_iff h.visible?_eq_none hcut hm]
      exact (h before m after hcut hm).2 hparts
  | false => exact partsAt_shown h.visible?_eq_none hcut hm hparts

/-- Between visible characters the edges of other elements part nothing. -/
theorem Node.HidesNothing.joinsAt (h : n.HidesNothing)
    (hcut : n.marksInside = before ++ (between ++ after))
    (hbefore : ∃ m ∈ before.getLast?, m.sign.visible?.isSome = true)
    (hbetween : ∀ m ∈ between, m.sign.visible? = none ∧ m.sign.parts = false)
    (hafter : ∃ m ∈ after.head?, m.sign.visible?.isSome = true) :
    JoinsAt (words (flatText n).toList) (visibleOf before) (visibleOf after) := by
  have hhidden := h.visible?_eq_none
  have hnothing : contributed between = [] :=
    List.flatMap_eq_nil_iff.mpr fun m hm =>
      m.contribution_eq_nil (hbetween m hm).1 (hbetween m hm).2
  -- A mark with a visible character is shown, since nothing visible is hidden.
  have hshown {m : Mark} (hm : m ∈ n.marksInside) (hvisible : m.sign.visible?.isSome = true) :
      m.hidden = false := by
    by_contra hcontra
    rw [hhidden m hm (Bool.of_not_eq_false hcontra)] at hvisible
    contradiction
  have hapart : ¬StandApart (contributed before) (contributed after) := by
    obtain ⟨a, ha, hfirst⟩ := hbefore
    obtain ⟨front, rfl⟩ := List.getLast?_eq_some_iff.mp ha
    obtain ⟨b, hb, hsecond⟩ := hafter
    obtain ⟨back, rfl⟩ := List.head?_eq_some_iff.mp hb
    obtain ⟨c, hc, hblank⟩ := a.contribution_of_visible (hshown (by simp [hcut]) hfirst) hfirst
    obtain ⟨d, hd, hblank'⟩ := b.contribution_of_visible (hshown (by simp [hcut]) hsecond) hsecond
    rw [not_standApart_iff, contributed_append, contributed_cons, contributed_cons, hc, hd]
    exact ⟨⟨c, by simp [contributed], hblank⟩, ⟨d, rfl, hblank'⟩⟩
  obtain ⟨hfront, hback, hwords⟩ := sides_eq hhidden hcut
  rw [hfront, hback, hwords, hnothing, List.nil_append]
  exact joinsAt_append hapart

/-- Where what is hidden makes no difference, nothing is lost and nothing merged. -/
theorem Node.HidesNothing.isFlattened (h : n.HidesNothing) :
    IsFlattened n (flatText n).toList where
  spaced := by
    rw [toList_flatText]
    exact isSpaced_collapse _
  complete := by
    rw [visible_flatText, ← visibleOf_marksInside]
    exact (visible_contributed_eq_iff _).mpr h.visible?_eq_none
  parted _ _ _ hcut hparts := h.partsAt hcut hparts
  joined _ _ _ hcut hbefore hbetween hafter := h.joinsAt hcut hbefore hbetween hafter

end Cut

/-- **Flattened text.**  The text of a tree is its flattened text, in which
nothing is lost and nothing merged, exactly when what the tree hides makes no
difference. -/
theorem isFlattened_flatText_iff (n : Node) :
    IsFlattened n (flatText n).toList ↔ n.HidesNothing := by
  refine ⟨fun h => ?_, Node.HidesNothing.isFlattened⟩
  have hhidden : ∀ m ∈ n.marksInside, m.hidden = true → m.sign.visible? = none := by
    rw [← visible_contributed_eq_iff, ← visible_flatText, h.complete, visibleOf_marksInside]
  intro before m after hcut hm
  refine ⟨hhidden m (by simp [hcut]) hm, fun hparts => ?_⟩
  exact (partsAt_hidden_iff hhidden hcut hm).mp (h.parted before m after hcut hparts)

example : flatText (parseDocument "<div><p>Hello</p>line<br>break <b>bo</b>ld</div>") =
    "Hello line break bold" := by decide +kernel

/-- A page with a template between two texts. -/
def templatePage : Node := parseDocument "<div>a<template>b</template>c</div>"

/-- The text of a template's contents is lost, and those around it become one
word. -/
theorem not_isFlattened_templatePage :
    flatText templatePage = "ac" ∧ templatePage.textsInside = [['a'], ['b'], ['c']] ∧
      ¬IsFlattened templatePage (flatText templatePage).toList := by
  have htext : flatText templatePage = "ac" := by decide +kernel
  have htexts : templatePage.textsInside = [['a'], ['b'], ['c']] := by decide +kernel
  refine ⟨htext, htexts, fun h => ?_⟩
  have hcomplete := h.complete
  rw [htext, htexts] at hcomplete
  revert hcomplete
  decide +kernel

/-! ## Trees of elements -/

mutual

/-- Where only elements have contents, nothing is hidden. -/
theorem shown_of_mem_marks {m : Mark} (trail : List Descent) (n : Node)
    (h : ∀ p ∈ Place.mk n trail :: Place.inside trail [] n,
      p.node.children ≠ [] → p.isElement = true)
    (hm : m ∈ marks false n) : m.hidden = false := by
  have hroot := h ⟨n, trail⟩ List.mem_cons_self
  cases n with
  | document ns =>
      cases ns with
      | nil => contradiction
      | cons n ns => exact absurd (hroot (List.cons_ne_nil n ns)) Bool.false_ne_true
  | fragment ns =>
      cases ns with
      | nil => contradiction
      | cons n ns => exact absurd (hroot (List.cons_ne_nil n ns)) Bool.false_ne_true
  | element tag ns =>
      simp only [marks, List.mem_cons, List.mem_append, List.not_mem_nil, or_false] at hm
      rcases hm with rfl | hm | rfl
      · rfl
      · exact shown_of_mem_marksAll (.element tag ns) trail 0 ns
          (fun p hp => h p (List.mem_cons_of_mem _ hp)) hm
      · rfl
  | text content =>
      obtain ⟨c, -, rfl⟩ := List.mem_map.mp hm
      rfl
  | comment content => contradiction
  | doctype name => contradiction

/-- So it is in trees in a row. -/
theorem shown_of_mem_marksAll {m : Mark} (parent : Node) (trail : List Descent) (index : Nat)
    (ns : List Node)
    (h : ∀ p ∈ Place.insideAll parent trail [] index ns,
      p.node.children ≠ [] → p.isElement = true)
    (hm : m ∈ marksAll false ns) : m.hidden = false := by
  cases ns with
  | nil => contradiction
  | cons n ns =>
      rw [Place.insideAll, Place.inside_append, ← List.cons_append] at h
      rcases List.mem_append.mp hm with hm | hm
      · exact shown_of_mem_marks _ n (fun p hp => h p (List.mem_append_left _ hp)) hm
      · exact shown_of_mem_marksAll parent trail (index + 1) ns
          (fun p hp => h p (List.mem_append_right _ hp)) hm

end

/-- The text of a tree in which only elements have contents is its flattened
text. -/
theorem isFlattened_flatText_of_elements {n : Node}
    (h : ∀ p ∈ (Place.root n).below, p.node.children ≠ [] → p.isElement = true) :
    IsFlattened n (flatText n).toList := by
  rw [below_root] at h
  refine Node.HidesNothing.isFlattened fun before m after hcut hm => ?_
  have hshown := shown_of_mem_marksAll n [] 0 n.children h (m := m) (by
    rw [← Node.marksInside, hcut]
    simp)
  rw [hshown] at hm
  contradiction

end Folio.Markup
