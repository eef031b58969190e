import Folio.Text.Blank
import Folio.Text.Search
import Mathlib.Data.List.DropRight
import Mathlib.Data.List.Infix
import Mathlib.Data.List.TakeWhile

/-!
# Folio.Proofs.Text.Search

Pieces of a text.  Cutting a text at a pattern and trimming it give pieces of
it, and a text is cut wherever the pattern stands in it (`cut?_eq_none_iff`).
Where texts are joined, a pattern that has nothing of the joint stands in one
of them.
-/

namespace Folio.Text

variable {pat s before after : List Char}

/-- What is said of every character of a text is decided for one after the other, and not by
way of what is said of every character there is. -/
instance (priority := high) decidableForallMem (s : List Char) (p : Char → Prop)
    [DecidablePred p] : Decidable (∀ c ∈ s, p c) :=
  List.decidableBAll p s

/-- What is said of the character that there may be is decided for it alone. -/
instance (priority := high) decidableForallMemOption (o : Option Char) (p : Char → Prop)
    [DecidablePred p] : Decidable (∀ c ∈ o, p c) :=
  match o with
  | none => isTrue fun _ h => nomatch h
  | some c => decidable_of_iff (p c) (by simp)

/-! ## Cutting -/

theorem stripPrefix?_eq_none_iff : stripPrefix? pat s = none ↔ ¬pat <+: s := by
  constructor
  · rintro h ⟨rest, rfl⟩
    rw [stripPrefix?_append] at h
    contradiction
  · intro h
    cases hstrip : stripPrefix? pat s with
    | none => rfl
    | some rest => exact absurd ⟨rest, (eq_append_of_stripPrefix? hstrip).symm⟩ h

/-- A text starts with its prefixes. -/
theorem startsWith_iff : startsWith pat s = true ↔ pat <+: s := by
  rw [startsWith, Option.isSome_iff_ne_none, ne_eq, stripPrefix?_eq_none_iff, not_not]

/-- A text ends with its suffixes. -/
theorem endsWith_iff : endsWith pat s = true ↔ pat <:+ s := by
  rw [endsWith, startsWith_iff, List.reverse_prefix]

/-- A text is cut wherever the pattern stands in it. -/
theorem cut?_eq_none_iff : cut? pat s = none ↔ ¬pat <:+: s := by
  induction s with
  | nil =>
      simp [cut?, stripPrefix?_eq_none_iff]
  | cons c s ih =>
      rw [List.infix_cons_iff, not_or, ← stripPrefix?_eq_none_iff, ← ih, cut?]
      cases stripPrefix? pat (c :: s) with
      | none => simp
      | some rest => simp

/-- A text contains its infixes. -/
theorem contains_iff : contains pat s = true ↔ pat <:+: s := by
  rw [contains, Option.isSome_iff_ne_none, ne_eq, cut?_eq_none_iff, not_not]

theorem cut?_of_stripPrefix? {rest : List Char} (h : stripPrefix? pat s = some rest) :
    cut? pat s = some ([], rest) := by
  cases s with
  | nil =>
      rw [cut?, h]
      rfl
  | cons c s => rw [cut?, h]

/-- A text is cut where the pattern stands first. -/
theorem length_le_of_cut? {front back : List Char} (h : cut? pat s = some (before, after))
    (hs : s = front ++ (pat ++ back)) : before.length ≤ front.length := by
  subst hs
  induction front generalizing before with
  | nil =>
      rw [List.nil_append, cut?_of_stripPrefix? (stripPrefix?_append pat back)] at h
      simp only [Option.some.injEq, Prod.mk.injEq] at h
      simp [← h.1]
  | cons d front ih =>
      rw [List.cons_append, cut?] at h
      split at h
      · simp only [Option.some.injEq, Prod.mk.injEq] at h
        simp [← h.1]
      · simp only [Option.map_eq_some_iff, Prod.mk.injEq, Prod.exists] at h
        obtain ⟨inner, _, hinner, rfl, rfl⟩ := h
        simpa using ih hinner

/-- In front of the first occurrence there is none. -/
theorem not_isInfix_of_cut? (hpat : pat ≠ []) (h : cut? pat s = some (before, after)) :
    ¬pat <:+: before := by
  rintro ⟨front, back, rfl⟩
  have hs : s = front ++ (pat ++ (back ++ (pat ++ after))) := by
    rw [eq_append_of_cut? h]
    simp only [List.append_assoc]
  have hle := length_le_of_cut? h hs
  have hpos := List.length_pos_iff.mpr hpat
  simp only [List.length_append] at hle
  omega

/-- A text is cut no later than at any occurrence of the pattern. -/
theorem exists_cut? {front back : List Char} (h : s = front ++ (pat ++ back)) :
    ∃ before after, cut? pat s = some (before, after) ∧ before.length ≤ front.length := by
  cases hcut : cut? pat s with
  | none =>
      rw [cut?_eq_none_iff, h] at hcut
      exact absurd (List.infix_append' front pat back) hcut
  | some parts => exact ⟨parts.1, parts.2, rfl, length_le_of_cut? hcut h⟩

/-! ## Trimming -/

theorem dropEndWhile_isPrefix (p : Char → Bool) (s : List Char) : dropEndWhile p s <+: s := by
  rw [dropEndWhile, ← List.reverse_suffix, List.reverse_reverse]
  exact List.dropWhile_suffix p

theorem trim_isInfix (s : List Char) : trim s <:+: s :=
  (dropEndWhile_isPrefix isBlank _).isInfix.trans (List.dropWhile_suffix isBlank).isInfix

/-- Blanks in front of a text are trimmed. -/
theorem trim_cons_of_isBlank {c : Char} (h : isBlank c = true) (s : List Char) :
    trim (c :: s) = trim s := by
  simp [trim, trimStart, List.dropWhile_cons_of_pos h]

/-- What is dropped anyway may stand behind the text. -/
theorem dropEndWhile_append_of_all {p : Char → Bool} {rest : List Char}
    (h : ∀ c ∈ rest, p c = true) (s : List Char) :
    dropEndWhile p (s ++ rest) = dropEndWhile p s := by
  have hrest : ∀ c ∈ rest.reverse, p c = true := fun c hc => h c (List.mem_reverse.mp hc)
  simp [dropEndWhile, List.reverse_append, List.dropWhile_append_of_pos hrest]

/-- Blanks behind a text are trimmed. -/
theorem trim_append_of_isBlank {rest : List Char} (h : ∀ c ∈ rest, isBlank c = true)
    (s : List Char) : trim (s ++ rest) = trim s := by
  induction s with
  | nil =>
      have hall : trimStart rest = [] := List.dropWhile_eq_nil_iff.mpr h
      rw [List.nil_append, trim, hall]
      rfl
  | cons c s ih =>
      by_cases hc : isBlank c = true
      · simp [trim_cons_of_isBlank hc, ih]
      · rw [List.cons_append, trim, trim, trimStart, trimStart, List.dropWhile_cons_of_neg hc,
          List.dropWhile_cons_of_neg hc, ← List.cons_append]
        exact dropEndWhile_append_of_all h (c :: s)

/-- A text is trimmed already when it neither begins nor ends with a blank. -/
theorem trim_eq_self {s : List Char} (hhead : ∀ c ∈ s.head?, ¬isBlank c = true)
    (hlast : ∀ c ∈ s.getLast?, ¬isBlank c = true) : trim s = s := by
  have hdrop {t : List Char} (h : ∀ c ∈ t.head?, ¬isBlank c = true) : t.dropWhile isBlank = t := by
    cases t with
    | nil => rfl
    | cons c t => exact List.dropWhile_cons_of_neg (h c rfl)
  have hreverse : s.reverse.dropWhile isBlank = s.reverse := by
    apply hdrop
    rwa [List.head?_reverse]
  rw [trim, trimStart, hdrop hhead, trimEnd, dropEndWhile, hreverse, List.reverse_reverse]

/-- A trimmed text does not begin with a blank. -/
theorem not_isBlank_head_trim (s : List Char) : ∀ c ∈ (trim s).head?, ¬isBlank c = true := by
  intro c hc
  obtain ⟨rest, hrest⟩ := dropEndWhile_isPrefix isBlank (trimStart s)
  have hhead : (trimStart s).head? = some c := by
    rw [← hrest, List.head?_append]
    rw [trim, trimEnd] at hc
    rw [hc]
    rfl
  have hnot := List.head?_dropWhile_not isBlank s
  rw [← trimStart, hhead] at hnot
  simpa using hnot

/-- A trimmed text does not end with a blank. -/
theorem not_isBlank_getLast_trim (s : List Char) : ∀ c ∈ (trim s).getLast?, ¬isBlank c = true := by
  intro c hc
  rw [trim, trimEnd, dropEndWhile, List.getLast?_reverse] at hc
  have hnot := List.head?_dropWhile_not isBlank (trimStart s).reverse
  rw [hc] at hnot
  simpa using hnot

/-- Trimming twice is trimming once. -/
@[simp] theorem trim_trim (s : List Char) : trim (trim s) = trim s :=
  trim_eq_self (not_isBlank_head_trim s) (not_isBlank_getLast_trim s)

/-- Trimming the end takes blanks away. -/
theorem exists_eq_append_trimEnd (s : List Char) :
    ∃ rest, (∀ c ∈ rest, isBlank c = true) ∧ s = trimEnd s ++ rest := by
  refine ⟨(s.reverse.takeWhile isBlank).reverse,
    fun c hc => List.mem_takeWhile_imp (List.mem_reverse.mp hc), ?_⟩
  rw [trimEnd, dropEndWhile, ← List.reverse_append, List.takeWhile_append_dropWhile,
    List.reverse_reverse]

/-- A text is what trimming leaves of it between blanks. -/
theorem exists_eq_append_trim (s : List Char) :
    ∃ lead rest, (∀ c ∈ lead, isBlank c = true) ∧ (∀ c ∈ rest, isBlank c = true) ∧
      s = lead ++ (trim s ++ rest) := by
  obtain ⟨rest, hrest, hs⟩ := exists_eq_append_trimEnd (trimStart s)
  refine ⟨s.takeWhile isBlank, rest, fun c hc => List.mem_takeWhile_imp hc, hrest, ?_⟩
  rw [trim, ← hs, trimStart, List.takeWhile_append_dropWhile]

@[simp] theorem trim_trimStart (s : List Char) : trim (trimStart s) = trim s := by
  have hstart : trimStart (trimStart s) = trimStart s := List.dropWhile_idempotent isBlank s
  rw [trim, hstart, trim]

@[simp] theorem trim_trimEnd (s : List Char) : trim (trimEnd s) = trim s := by
  obtain ⟨rest, hrest, hs⟩ := exists_eq_append_trimEnd s
  rw [← trim_append_of_isBlank hrest (trimEnd s), ← hs]

/-- A text is blank when trimming leaves nothing of it. -/
theorem isBlankText_iff {s : String} : isBlankText s = true ↔ trim s.toList = [] := by
  constructor
  · intro h
    rw [isBlankText, List.all_eq_true] at h
    rw [trim, trimStart, List.dropWhile_eq_nil_iff.mpr h]
    rfl
  · intro h
    obtain ⟨lead, rest, hlead, hrest, hs⟩ := exists_eq_append_trim s.toList
    rw [isBlankText, List.all_eq_true, hs, h]
    intro c hc
    exact (List.mem_append.mp hc).elim (hlead c) (hrest c)

/-- Blanks at the edges do not decide whether a text is blank. -/
theorem isBlankText_congr {s t : String} (h : trim s.toList = trim t.toList) :
    isBlankText s = isBlankText t := by
  rw [Bool.eq_iff_iff, isBlankText_iff, isBlankText_iff, h]

/-- Dropping ends before the text where it would not begin in it. -/
theorem dropWhile_append_of_head {p : Char → Bool} {s : List Char}
    (h : ∀ c ∈ s.head?, ¬p c = true) (front : List Char) :
    (front ++ s).dropWhile p = front.dropWhile p ++ s := by
  induction front with
  | nil =>
      cases s with
      | nil => rfl
      | cons c s => exact List.dropWhile_cons_of_neg (h c rfl)
  | cons c front ih =>
      by_cases hc : p c = true
      · simp [List.cons_append, List.dropWhile_cons_of_pos hc, ih]
      · rw [List.cons_append, List.dropWhile_cons_of_neg hc, List.dropWhile_cons_of_neg hc,
          List.cons_append]

/-- A text that begins with what is not blank is trimmed at its end only. -/
theorem trim_eq_trimEnd {s : List Char} (h : ∀ c ∈ s.head?, ¬isBlank c = true) :
    trim s = trimEnd s := by
  have hstart := dropWhile_append_of_head h []
  rw [List.nil_append, List.dropWhile_nil, List.nil_append] at hstart
  rw [trim, trimStart, hstart]

/-- A text that ends with what is not blank is trimmed at its beginning only. -/
theorem trim_eq_trimStart {s : List Char} (h : ∀ c ∈ s.getLast?, ¬isBlank c = true) :
    trim s = trimStart s := by
  rw [← trim_trimStart]
  refine trim_eq_self ?_ fun c hc => h c ?_
  · intro c hc
    have hhead := List.head?_dropWhile_not isBlank s
    rw [← trimStart, hc] at hhead
    simpa using hhead
  · obtain ⟨front, hfront⟩ : trimStart s <:+ s := List.dropWhile_suffix isBlank
    rw [← hfront, List.getLast?_append, hc]
    rfl

/-- Blanks are trimmed on both sides of a mark. -/
theorem trim_append_mark {mark : List Char} (hhead : ∀ c ∈ mark.head?, ¬isBlank c = true)
    (hlast : ∀ c ∈ mark.getLast?, ¬isBlank c = true) (hmark : mark ≠ []) (front rest : List Char) :
    trim (front ++ (mark ++ rest)) = trimStart front ++ (mark ++ trimEnd rest) := by
  have hstart : trimStart (front ++ (mark ++ rest)) = trimStart front ++ (mark ++ rest) := by
    refine dropWhile_append_of_head (fun c hc => hhead c ?_) front
    rwa [List.head?_append_of_ne_nil _ hmark] at hc
  have hreverse : ∀ c ∈ (mark.reverse ++ (trimStart front).reverse).head?, ¬isBlank c = true := by
    intro c hc
    rw [List.head?_append_of_ne_nil _ (by simpa using hmark), List.head?_reverse] at hc
    exact hlast c hc
  rw [trim, hstart, trimEnd, dropEndWhile, List.reverse_append, List.reverse_append,
    List.append_assoc, dropWhile_append_of_head hreverse]
  simp [trimEnd, dropEndWhile]

/-! ## Joined texts -/

/-- What stands in joined texts stands between them or in one of them. -/
theorem mem_of_mem_intercalate {delim : List Char} {pieces : List (List Char)}
    {c : Char} (h : c ∈ delim.intercalate pieces) : c ∈ delim ∨ ∃ piece ∈ pieces, c ∈ piece := by
  induction pieces with
  | nil => contradiction
  | cons piece pieces ih =>
      cases pieces with
      | nil =>
          rw [List.intercalate_singleton] at h
          exact Or.inr ⟨piece, List.mem_cons_self, h⟩
      | cons next pieces =>
          rw [List.intercalate_cons_cons, List.mem_append, List.mem_append] at h
          rcases h with (h | h) | h
          · exact Or.inr ⟨piece, List.mem_cons_self, h⟩
          · exact Or.inl h
          · exact (ih h).imp_right fun ⟨other, hother, hc⟩ =>
              ⟨other, List.mem_cons_of_mem piece hother, hc⟩

/-! ## Patterns in a row -/

/-- The patterns stand in a text one after the other. -/
def Spells : List (List Char) → List Char → Prop
  | [], _ => True
  | pat :: pats, s => ∃ before after, s = before ++ (pat ++ after) ∧ Spells pats after

/-- One pattern is spelled where it stands. -/
@[simp] theorem spells_singleton_iff : Spells [pat] s ↔ pat <:+: s := by
  constructor
  · rintro ⟨before, after, rfl, -⟩
    exact List.infix_append' before pat after
  · rintro ⟨before, after, rfl⟩
    exact ⟨before, after, List.append_assoc before pat after, trivial⟩

section Spells

variable {pats first second : List (List Char)} {t : List Char} {c : Char}

/-- What stands in front may be passed over. -/
theorem Spells.append_left (h : Spells pats s) (front : List Char) : Spells pats (front ++ s) := by
  cases pats with
  | nil => trivial
  | cons pat pats =>
      obtain ⟨before, after, rfl, hrest⟩ := h
      exact ⟨front ++ before, after, by rw [List.append_assoc], hrest⟩

/-- Patterns in the first of two texts and patterns in the second. -/
theorem Spells.append (hfirst : Spells first s) (hsecond : Spells second t) :
    Spells (first ++ second) (s ++ t) := by
  induction first generalizing s with
  | nil => exact hsecond.append_left s
  | cons pat first ih =>
      obtain ⟨before, after, rfl, hrest⟩ := hfirst
      exact ⟨before, after ++ t, by simp only [List.append_assoc], ih hrest⟩

/-- What a piece spells, the text spells. -/
theorem Spells.of_isInfix (h : Spells pats s) (hs : s <:+: t) : Spells pats t := by
  obtain ⟨front, back, rfl⟩ := hs
  have hback : Spells (pats ++ []) (front ++ s ++ back) := (h.append_left front).append trivial
  rwa [List.append_nil] at hback

/-- A pattern that lacks a character stands on one side of it. -/
theorem split_at_of_not_mem {front back : List Char} (hc : c ∉ pat)
    (h : front ++ c :: back = before ++ (pat ++ after)) :
    (∃ rest, front = before ++ (pat ++ rest) ∧ after = rest ++ c :: back) ∨
      ∃ rest, before = front ++ c :: rest ∧ back = rest ++ (pat ++ after) := by
  rw [← List.append_assoc] at h
  rcases List.append_eq_append_iff.mp h with ⟨right, hbefore, hback⟩ | ⟨rest, hfront, hafter⟩
  · cases right with
    | nil =>
        rw [List.append_nil] at hbefore
        exact Or.inl ⟨[], by rw [List.append_nil, hbefore], hback.symm⟩
    | cons d right =>
        obtain ⟨rfl, rfl⟩ := List.cons.inj hback
        have hsplit : before ++ pat = (front ++ [c]) ++ right := by simp [hbefore]
        rcases List.append_eq_append_iff.mp hsplit with ⟨part, hover, hpat⟩ | ⟨rest, hrest, hright⟩
        · rcases List.eq_nil_or_concat part with rfl | ⟨part, last, rfl⟩
          · exact Or.inr ⟨[], by simpa using hover.symm, by simp [hpat]⟩
          · have hlast : c = last := by
              rw [List.concat_eq_append, ← List.append_assoc] at hover
              exact (List.append_singleton_inj.mp hover).2
            refine absurd ?_ hc
            rw [hpat, hlast]
            simp
        · exact Or.inr ⟨rest, by simp [hrest], by simp [hright]⟩
  · exact Or.inl ⟨rest, by rw [hfront, List.append_assoc], hafter⟩

/-- A pattern does not begin in a text that has nothing of it. -/
theorem exists_eq_append_of_not_mem {mid back : List Char} (hpat : pat ≠ [])
    (hmid : ∀ c ∈ mid, c ∉ pat) (h : mid ++ back = before ++ (pat ++ after)) :
    ∃ rest, before = mid ++ rest ∧ back = rest ++ (pat ++ after) := by
  induction mid generalizing before with
  | nil => exact ⟨before, rfl, h⟩
  | cons c mid ih =>
      obtain ⟨hc, hmid⟩ := List.forall_mem_cons.mp hmid
      cases before with
      | nil =>
          obtain ⟨p, ps, rfl⟩ := List.exists_cons_of_ne_nil hpat
          obtain ⟨rfl, -⟩ := List.cons.inj h
          exact absurd List.mem_cons_self hc
      | cons d before =>
          obtain ⟨rfl, hrest⟩ := List.cons.inj h
          obtain ⟨rest, rfl, hback⟩ := ih hmid hrest
          exact ⟨rest, rfl, hback⟩

/-- Patterns that lack a character stand before it and behind it. -/
theorem Spells.split {front back : List Char} (h : Spells pats (front ++ c :: back))
    (hc : ∀ pat ∈ pats, c ∉ pat) :
    ∃ first second, pats = first ++ second ∧ Spells first front ∧ Spells second back := by
  induction pats generalizing front with
  | nil => exact ⟨[], [], rfl, trivial, trivial⟩
  | cons pat pats ih =>
      obtain ⟨hpat, hpats⟩ := List.forall_mem_cons.mp hc
      obtain ⟨before, after, heq, hrest⟩ := h
      rcases split_at_of_not_mem hpat heq with ⟨rest, rfl, rfl⟩ | ⟨rest, rfl, rfl⟩
      · obtain ⟨first, second, rfl, hfirst, hsecond⟩ := ih hrest hpats
        exact ⟨pat :: first, second, rfl, ⟨before, rest, rfl, hfirst⟩, hsecond⟩
      · exact ⟨[], pat :: pats, rfl, trivial, rest, after, rfl, hrest⟩

/-- A character in front of a text adds no patterns that lack it. -/
theorem Spells.tail (h : Spells pats (c :: s)) (hc : ∀ pat ∈ pats, c ∉ pat) : Spells pats s := by
  have hsplit : Spells pats ([] ++ c :: s) := h
  obtain ⟨first, second, rfl, hfirst, hsecond⟩ := hsplit.split hc
  exact hfirst.append hsecond

/-- A character behind a text adds no patterns that end otherwise. -/
theorem Spells.dropLast (h : Spells pats (s ++ [c]))
    (hc : ∀ pat ∈ pats, pat ≠ [] ∧ pat.getLast? ≠ some c) : Spells pats s := by
  induction pats generalizing s with
  | nil => trivial
  | cons pat pats ih =>
      obtain ⟨⟨hne, hlast⟩, hpats⟩ := List.forall_mem_cons.mp hc
      obtain ⟨before, after, heq, hrest⟩ := h
      rcases List.eq_nil_or_concat after with rfl | ⟨after, last, rfl⟩
      · have hend := congrArg List.getLast? heq
        rw [List.append_nil, List.getLast?_concat, List.getLast?_append_of_ne_nil _ hne] at hend
        exact absurd hend.symm hlast
      · rw [List.concat_eq_append, ← List.append_assoc, ← List.append_assoc] at heq
        obtain ⟨rfl, rfl⟩ := List.append_singleton_inj.mp heq
        rw [List.concat_eq_append] at hrest
        exact ⟨before, after, List.append_assoc _ _ _, ih hrest hpats⟩

end Spells

end Folio.Text
