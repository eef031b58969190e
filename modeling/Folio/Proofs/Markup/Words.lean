import Folio.Markup.Flatten
import Folio.Proofs.Text.Lines
import Mathlib.Data.List.Chain

/-!
# Folio.Proofs.Markup.Words

The words of a text.  They have all its characters but the blanks
(`flatten_words`).  Collapsing the blanks leaves the words alone
(`words_collapse`) and sets them apart by one space each (`isSpaced_collapse`).

Where two texts are joined, their words stay apart exactly when a blank, or
nothing, stands on one side of the joint (`partsAt_append_iff`); else the last
word of the one and the first of the other become one word (`joinsAt_append`).
-/

namespace Folio.Markup

open Folio.Text

variable {s t w : List Char}

/-! ## Words of a text -/

/-- A word: characters that are not blank, one at least. -/
def IsWord (w : List Char) : Prop := w ≠ [] ∧ ∀ c ∈ w, isBlank c = false

/-- The characters of a text that are not blank. -/
def visible (s : List Char) : List Char := s.filter fun c => !isBlank c

@[simp] theorem visible_append (s t : List Char) : visible (s ++ t) = visible s ++ visible t :=
  List.filter_append _ _

/-- All of a word can be seen. -/
theorem IsWord.visible_eq (h : IsWord w) : visible w = w := by
  rw [visible, List.filter_eq_self]
  intro c hc
  rw [h.2 c hc]
  rfl

/-- Words are words. -/
theorem isWord_of_mem_words (h : w ∈ words s) : IsWord w := by
  rw [words, List.mem_filter] at h
  obtain ⟨hpiece, hne⟩ := h
  exact ⟨by simpa using hne, eq_false_of_mem_splitWhere hpiece⟩

/-- Words are parted at a blank. -/
theorem words_append_cons {c : Char} (hc : isBlank c = true) (s t : List Char) :
    words (s ++ c :: t) = words s ++ words t := by
  simp only [words, splitWhere_eq_splitOnP]
  rw [List.splitOnP_append_cons s t hc, List.filter_append]

/-- A word is its only word. -/
theorem IsWord.words_eq (h : IsWord w) : words w = [w] := by
  rw [words, splitWhere_eq_splitOnP, List.splitOnP_eq_singleton h.2]
  simp [h.1]

@[simp] theorem flatten_splitWhere (p : Char → Bool) (s : List Char) :
    (splitWhere p s).flatten = s.filter fun c => !p c := by
  induction s with
  | nil => rfl
  | cons c s ih =>
      obtain ⟨piece, rest, hpieces⟩ := List.exists_cons_of_ne_nil (splitWhere_ne_nil p s)
      rw [hpieces, List.flatten_cons] at ih
      by_cases hc : p c = true
      · simp [splitWhere, hc, hpieces, ih]
      · simp [splitWhere, hc, hpieces, ih]

/-- The words of a text have all its characters but the blanks. -/
@[simp] theorem flatten_words (s : List Char) : (words s).flatten = visible s := by
  rw [words, List.flatten_filter_not_isEmpty, flatten_splitWhere, visible]

/-! ## Joints -/

/-- A blank, or nothing, stands on one side of the joint of two texts. -/
def StandApart (s t : List Char) : Prop :=
  (∀ c ∈ s.getLast?, isBlank c = true) ∨ ∀ c ∈ t.head?, isBlank c = true

/-- Two texts join where neither has a blank at the joint. -/
theorem not_standApart_iff :
    ¬StandApart s t ↔
      (∃ c ∈ s.getLast?, isBlank c = false) ∧ ∃ c ∈ t.head?, isBlank c = false := by
  simp [StandApart]

/-- Texts that meet at a blank keep their words. -/
theorem words_append (h : StandApart s t) : words (s ++ t) = words s ++ words t := by
  rcases h with hlast | hhead
  · cases s using List.reverseRecOn with
    | nil => rfl
    | append_singleton init c =>
        have hc : isBlank c = true := hlast c (by simp)
        have hwhole : words (init ++ [c]) = words init := by
          rw [words_append_cons hc]
          exact List.append_nil _
        rw [List.append_assoc, List.singleton_append, words_append_cons hc, hwhole]
  · cases t with
    | nil => rw [List.append_nil]; exact (List.append_nil _).symm
    | cons c t =>
        have hc : isBlank c = true := hhead c rfl
        have hwhole : words (c :: t) = words t := words_append_cons hc [] t
        rw [words_append_cons hc, hwhole]

/-- What a text begins with, up to the first blank. -/
theorem exists_firstWord (h : ∃ c ∈ t.head?, isBlank c = false) :
    ∃ first rest, t = first ++ rest ∧ IsWord first ∧ ∀ c ∈ rest.head?, isBlank c = true := by
  refine ⟨t.takeWhile fun c => !isBlank c, t.dropWhile fun c => !isBlank c,
    List.takeWhile_append_dropWhile.symm, ⟨?_, ?_⟩, ?_⟩
  · obtain ⟨c, hc, hblank⟩ := h
    obtain ⟨rest, rfl⟩ := List.head?_eq_some_iff.mp hc
    simp [hblank]
  · intro c hc
    simpa using List.mem_takeWhile_imp hc
  · intro c hc
    have hnot := List.head?_dropWhile_not (fun c => !isBlank c) t
    rw [hc] at hnot
    simpa using hnot

/-- What a text ends with, from the last blank on. -/
theorem exists_lastWord (h : ∃ c ∈ s.getLast?, isBlank c = false) :
    ∃ rest last, s = rest ++ last ∧ IsWord last ∧ ∀ c ∈ rest.getLast?, isBlank c = true := by
  rw [← List.head?_reverse] at h
  obtain ⟨last, rest, hsplit, hword, hrest⟩ := exists_firstWord h
  refine ⟨rest.reverse, last.reverse, ?_, ⟨?_, ?_⟩, ?_⟩
  · rw [← List.reverse_append, ← hsplit, List.reverse_reverse]
  · simpa using hword.1
  · simpa using hword.2
  · simpa using hrest

/-! ## Parting and joining -/

/-- Some words spell what stands before a joint, and the others what stands
behind it. -/
def PartsAt (ws : List (List Char)) (front back : List Char) : Prop :=
  ∃ before after, ws = before ++ after ∧ before.flatten = front ∧ after.flatten = back

/-- One of the words is spelled across a joint. -/
def JoinsAt (ws : List (List Char)) (front back : List Char) : Prop :=
  ∃ before u v after, ws = before ++ (u ++ v) :: after ∧ u ≠ [] ∧ v ≠ [] ∧
    before.flatten ++ u = front ∧ v ++ after.flatten = back

/-- Where words join they do not part. -/
theorem JoinsAt.not_partsAt {ws : List (List Char)} {front back : List Char}
    (h : JoinsAt ws front back) : ¬PartsAt ws front back := by
  rintro ⟨before', after', hws', hfront', -⟩
  obtain ⟨before, u, v, after, hws, hu, hv, hfront, -⟩ := h
  rw [← hfront] at hfront'
  rw [hws] at hws'
  -- The words before the joint are fewer or more than those before the word across it.
  rcases List.append_eq_append_iff.mp hws' with ⟨more, hbefore, hrest⟩ | ⟨more, hbefore, -⟩
  · cases more with
    | nil =>
        rw [hbefore, List.append_nil, List.self_eq_append_right] at hfront'
        exact hu hfront'
    | cons word more =>
        obtain ⟨rfl, -⟩ := List.cons.inj hrest
        rw [hbefore, List.flatten_append, List.flatten_cons, List.append_assoc,
          List.append_cancel_left_eq, List.append_right_eq_self] at hfront'
        exact hv (List.append_eq_nil_iff.mp hfront').1
  · rw [hbefore, List.flatten_append, List.append_assoc, List.self_eq_append_right] at hfront'
    exact hu (List.append_eq_nil_iff.mp hfront').2

/-- The words of texts that meet at a blank are parted at the joint. -/
theorem partsAt_append (h : StandApart s t) : PartsAt (words (s ++ t)) (visible s) (visible t) :=
  ⟨words s, words t, words_append h, flatten_words s, flatten_words t⟩

/-- Where no blank stands at the joint, a word goes across it. -/
theorem joinsAt_append (h : ¬StandApart s t) :
    JoinsAt (words (s ++ t)) (visible s) (visible t) := by
  obtain ⟨hlast, hhead⟩ := not_standApart_iff.mp h
  obtain ⟨before, u, rfl, hu, hbefore⟩ := exists_lastWord hlast
  obtain ⟨v, after, rfl, hv, hafter⟩ := exists_firstWord hhead
  have hword : IsWord (u ++ v) :=
    ⟨by simp [hu.1], fun c hc => (List.mem_append.mp hc).elim (hu.2 c) (hv.2 c)⟩
  have hwords : words (before ++ u ++ (v ++ after)) = words before ++ (u ++ v) :: words after := by
    calc words (before ++ u ++ (v ++ after))
        = words (before ++ ((u ++ v) ++ after)) := by simp only [List.append_assoc]
      _ = words before ++ words ((u ++ v) ++ after) := words_append (.inl hbefore)
      _ = words before ++ (words (u ++ v) ++ words after) := by rw [words_append (.inr hafter)]
      _ = words before ++ (u ++ v) :: words after := by rw [hword.words_eq, List.singleton_append]
  refine ⟨words before, u, v, words after, hwords, hu.1, hv.1, ?_, ?_⟩
  · rw [flatten_words, visible_append, hu.visible_eq]
  · rw [flatten_words, visible_append, hv.visible_eq]

/-- The words of two joined texts are parted at the joint exactly when a blank,
or nothing, stands on one side of it. -/
theorem partsAt_append_iff :
    PartsAt (words (s ++ t)) (visible s) (visible t) ↔ StandApart s t := by
  refine ⟨fun h => ?_, partsAt_append⟩
  by_contra hjoint
  exact (joinsAt_append hjoint).not_partsAt h

/-! ## Collapsed blanks -/

/-- No blank stands at either end, and no two stand beside each other. -/
structure IsSpaced (s : List Char) : Prop where
  leading : ∀ c ∈ s.head?, isBlank c = false
  trailing : ∀ c ∈ s.getLast?, isBlank c = false
  single : s.IsChain fun c d => isBlank c = false ∨ isBlank d = false

/-- A word is spaced. -/
theorem IsWord.isSpaced (h : IsWord w) : IsSpaced w where
  leading c hc := h.2 c (List.mem_of_head? hc)
  trailing c hc := h.2 c (List.mem_of_getLast? hc)
  single := List.isChain_iff_forall_rel_of_append_cons_cons.mpr fun _ _ _ _ hw =>
    .inl (h.2 _ (by simp [hw]))

/-- A word and a space stand in front of spaced text. -/
theorem IsSpaced.cons_word (hw : IsWord w) (hs : IsSpaced s) (hne : s ≠ []) :
    IsSpaced (w ++ ' ' :: s) where
  leading c hc := by
    rw [List.head?_append_of_ne_nil _ hw.1] at hc
    exact hw.isSpaced.leading c hc
  trailing c hc := by
    rw [List.getLast?_append_of_ne_nil _ (List.cons_ne_nil _ _), List.getLast?_cons_of_ne_nil hne]
      at hc
    exact hs.trailing c hc
  single := by
    refine hw.isSpaced.single.append (hs.single.cons fun c hc => .inr (hs.leading c hc)) ?_
    exact fun c hc _ _ => .inl (hw.2 c (List.mem_of_getLast? hc))

/-- Words with single spaces between them are spaced text, with just these
words. -/
theorem isSpaced_intercalate {ws : List (List Char)} (h : ∀ w ∈ ws, IsWord w) :
    IsSpaced ([' '].intercalate ws) ∧ words ([' '].intercalate ws) = ws := by
  induction ws with
  | nil => exact ⟨⟨by simp, by simp, .nil⟩, rfl⟩
  | cons w ws ih =>
      have hw : IsWord w := h w List.mem_cons_self
      obtain ⟨hspaced, hwords⟩ := ih fun w hw => h w (List.mem_cons_of_mem _ hw)
      by_cases hws : ws = []
      · rw [hws, List.intercalate_singleton]
        exact ⟨hw.isSpaced, hw.words_eq⟩
      · rw [List.intercalate_cons_of_ne_nil hws, List.append_assoc, List.singleton_append]
        refine ⟨hspaced.cons_word hw ?_, ?_⟩
        · intro hnil
          rw [hnil] at hwords
          exact hws hwords.symm
        · rw [words_append_cons rfl, hw.words_eq, hwords, List.singleton_append]

/-- A collapsed text is spaced. -/
theorem isSpaced_collapse (s : List Char) : IsSpaced (collapse s) :=
  (isSpaced_intercalate fun _ => isWord_of_mem_words).1

/-- Collapsing blanks leaves the words as they are. -/
@[simp] theorem words_collapse (s : List Char) : words (collapse s) = words s :=
  (isSpaced_intercalate fun _ => isWord_of_mem_words).2

/-- Collapsing keeps what can be seen. -/
@[simp] theorem visible_collapse (s : List Char) : visible (collapse s) = visible s := by
  rw [← flatten_words, words_collapse, flatten_words]

end Folio.Markup
