import Folio.Proofs.Rule.Cascade
import Folio.Proofs.Text.Number
import Folio.Proofs.Text.Quoted

/-!
# Folio.Proofs.Rule.IndexSuffix

Index suffixes.  The marks of a suffix belong to selectors as well, so the end
of a step is read as a suffix only where a position stands behind the mark or
between the brackets.  A position holds none of these marks: a suffix is cut off
whole, whatever it stands behind (`lastSuffix?_append`), and a stack of them
down to the step that has none (`splitIndexFrom_append`).  The first one cut
off, the rightmost, counts.  It keeps the element at its position or leaves the
others, and no two elements inside a place are the same, so that what the one
keeps is what the other lacks (`read_indexed`).
-/

namespace Folio.Rule

open Folio.Text Folio.Markup

variable {s : List Char}

/-! ## Inside a suffix -/

/-- The positions of 64 bits are read from their numerals. -/
theorem position64?_toString {n : Int} (hleast : -(Int.pow 2 63) ≤ n)
    (hmost : n ≤ Int.pow 2 63 - 1) : position64? (toString n).toList = some n := by
  have hnatural (m : Nat) : (toString m).toList ≠ [] ∧
      (toString m).toList.all isAsciiDigit = true :=
    ⟨toList_toString_ne_nil m, List.all_eq_true.mpr fun c hc => isAsciiDigit_of_mem_toString hc⟩
  have hdigits : (stripPrefix? ['-'] (toString n).toList).getD (toString n).toList ≠ [] ∧
      ((stripPrefix? ['-'] (toString n).toList).getD (toString n).toList).all isAsciiDigit := by
    cases n with
    | ofNat m =>
        have hplain : stripPrefix? ['-'] (toString m).toList = none := by
          obtain ⟨c, rest, hcons, hdigit⟩ := exists_toString_eq_cons m
          have hminus : '-' ≠ c := by
            rintro rfl
            contradiction
          rw [hcons, stripPrefix?, if_neg hminus]
        rw [Int.ofNat_eq_natCast, toList_toString_ofNat, hplain]
        exact hnatural m
    | negSucc m =>
        rw [toList_toString_negSucc]
        exact hnatural (m + 1)
  rw [position64?, if_pos hdigits, integerWithin?_toString, if_pos ⟨hleast, hmost⟩]

/-- A position is written in digits that a minus sign may precede. -/
theorem minus_or_digit_of_position64? {n : Int} (h : position64? s = some n) {c : Char}
    (hc : c ∈ s) : c = '-' ∨ isAsciiDigit c = true := by
  rw [position64?] at h
  split at h
  · next hdigits =>
    have hall := List.all_eq_true.mp hdigits.2
    cases hstrip : stripPrefix? ['-'] s with
    | none =>
        rw [hstrip] at hall
        exact Or.inr (hall c hc)
    | some digits =>
        rw [hstrip] at hall
        rw [eq_append_of_stripPrefix? hstrip] at hc
        exact (List.mem_append.mp hc).imp List.mem_singleton.mp (hall c)
  · cases h

/-- Positions are read from texts without blanks. -/
theorem isBlank_eq_false_of_position64? {n : Int} (h : position64? s = some n) {c : Char}
    (hc : c ∈ s) : isBlank c = false := by
  rcases minus_or_digit_of_position64? h hc with rfl | hdigit
  · rfl
  · exact isBlank_eq_false_of_isAsciiDigit hdigit

/-- Ranges are written without blanks. -/
theorem isBlank_eq_false_of_isRange (h : isRange s = true) {c : Char} (hc : c ∈ s) :
    isBlank c = false := by
  rw [isRange, Bool.and_eq_true, List.all_eq_true] at h
  have hclass := h.2 c hc
  rw [Bool.or_eq_true, Bool.or_eq_true, beq_iff_eq, beq_iff_eq] at hclass
  rcases hclass with (hdigit | rfl) | rfl
  · exact isBlank_eq_false_of_isAsciiDigit hdigit
  · rfl
  · rfl

/-- Nothing that is read in a suffix is blank. -/
theorem isBlank_eq_false_of_readIndex? {index : Except Failure Index}
    (h : readIndex? s = some index) {c : Char} (hc : c ∈ s) : isBlank c = false := by
  have hnumber {removes : Bool} {number text : List Char}
      (h : (if isRange number then some (.error (.range (String.ofList text)))
        else (position64? number).map fun n =>
          .ok (if removes then Index.remove n else .keep n)) = some index)
      (hc : c ∈ number) : isBlank c = false := by
    split at h
    · next hrange => exact isBlank_eq_false_of_isRange hrange hc
    · obtain ⟨n, hread, -⟩ := Option.map_eq_some_iff.mp h
      exact isBlank_eq_false_of_position64? hread hc
  rw [readIndex?] at h
  cases hstrip : stripPrefix? ['!'] s with
  | none =>
      rw [hstrip] at h
      exact hnumber h hc
  | some number =>
      rw [hstrip] at h
      rw [eq_append_of_stripPrefix? hstrip] at hc
      rcases List.mem_append.mp hc with hbang | hc
      · rw [List.mem_singleton.mp hbang]
        rfl
      · exact hnumber h hc

/-! ## Suffixes -/

/-- An index suffix as it is written: a numeral behind a mark or in brackets. -/
structure Suffix where
  removes : Bool
  bracketed : Bool
  numeral : List Char
  position : Int
  reads : position64? numeral = some position

namespace Suffix

/-- What the suffix says. -/
def index (x : Suffix) : Index := if x.removes then .remove x.position else .keep x.position

/-- The numeral and the `!` before it. -/
def inside (x : Suffix) : List Char := if x.removes then '!' :: x.numeral else x.numeral

/-- The suffix at the end of a step. -/
def text (x : Suffix) : List Char :=
  if x.bracketed then '[' :: (x.inside ++ [']'])
  else (if x.removes then '!' else '.') :: x.numeral

/-- Numerals are digits and minus signs. -/
theorem not_mem_numeral (x : Suffix) {c : Char} (hminus : c ≠ '-')
    (hdigit : isAsciiDigit c = false) : c ∉ x.numeral := by
  intro hc
  rcases minus_or_digit_of_position64? x.reads hc with h | h
  · exact hminus h
  · rw [hdigit] at h
    contradiction

theorem not_mem_inside (x : Suffix) {c : Char} (hbang : c ≠ '!') (hminus : c ≠ '-')
    (hdigit : isAsciiDigit c = false) : c ∉ x.inside := by
  rw [inside]
  split
  · exact List.not_mem_cons_of_ne_of_not_mem hbang (x.not_mem_numeral hminus hdigit)
  · exact x.not_mem_numeral hminus hdigit

/-- What a suffix holds is read as its index. -/
theorem readIndex?_inside (x : Suffix) : readIndex? x.inside = some (.ok x.index) := by
  have hrange : isRange x.numeral = false := by
    have hcolon : x.numeral.contains ':' = false := by
      simpa using x.not_mem_numeral (c := ':') (by decide) rfl
    rw [isRange, hcolon, Bool.false_and, Bool.false_and]
  cases hremoves : x.removes with
  | false =>
      have hplain : stripPrefix? ['!'] x.numeral = none := by
        rw [stripPrefix?_eq_none_iff]
        intro hstarts
        exact x.not_mem_numeral (by decide) rfl (hstarts.subset List.mem_cons_self)
      simp [readIndex?, inside, index, hremoves, hplain, hrange, x.reads]
  | true =>
      have hstrip : stripPrefix? ['!'] ('!' :: x.numeral) = some x.numeral := rfl
      simp [readIndex?, inside, index, hremoves, hstrip, hrange, x.reads]

/-- A suffix holds no blanks. -/
theorem isBlank_eq_false_of_mem_text (x : Suffix) {c : Char} (hc : c ∈ x.text) :
    isBlank c = false := by
  rw [text] at hc
  split at hc
  · rcases List.mem_cons.mp hc with rfl | hc
    · rfl
    · rcases List.mem_append.mp hc with hc | hc
      · exact isBlank_eq_false_of_readIndex? x.readIndex?_inside hc
      · rw [List.mem_singleton.mp hc]
        rfl
  · rcases List.mem_cons.mp hc with rfl | hc
    · split <;> rfl
    · exact isBlank_eq_false_of_position64? x.reads hc

theorem text_ne_nil (x : Suffix) : x.text ≠ [] := by
  rw [text]
  split <;> exact List.cons_ne_nil _ _

end Suffix

/-! ## Cutting suffixes off -/

theorem drop_length_takeWhile (p : Char → Bool) (s : List Char) :
    s.drop (s.takeWhile p).length = s.dropWhile p :=
  calc s.drop (s.takeWhile p).length
      = (s.takeWhile p ++ s.dropWhile p).drop (s.takeWhile p).length := by
        rw [List.takeWhile_append_dropWhile]
    _ = s.dropWhile p := List.drop_left

/-- The text is split at the last mark. -/
theorem splitLast?_append {p : Char → Bool} {c : Char} (hc : p c = true) (before : List Char)
    {after : List Char} (h : ∀ d ∈ after, p d = false) :
    splitLast? p (before ++ c :: after) = some (before, c, after) := by
  have hafter : ∀ d ∈ after.reverse, (!p d) = true := fun d hd => by
    rw [h d (List.mem_reverse.mp hd), Bool.not_false]
  have hreverse : (before ++ c :: after).reverse = after.reverse ++ c :: before.reverse := by simp
  simp only [splitLast?, List.length_reverse, drop_length_takeWhile]
  rw [hreverse, List.dropWhile_append_of_pos hafter, List.takeWhile_append_of_pos hafter]
  simp [hc]

/-- What stands before, at and behind the last mark is the text. -/
theorem eq_append_of_splitLast? {p : Char → Bool} {before after : List Char} {c : Char}
    (h : splitLast? p s = some (before, c, after)) : s = before ++ c :: after ∧ p c = true := by
  have hparts := List.takeWhile_append_dropWhile (p := fun c => !p c) (l := s.reverse)
  simp only [splitLast?, List.length_reverse, drop_length_takeWhile] at h
  split at h
  · cases h
  · next d rest hdrop =>
    simp only [Option.some.injEq, Prod.mk.injEq] at h
    obtain ⟨rfl, rfl, rfl⟩ := h
    rw [hdrop] at hparts
    constructor
    · calc s = s.reverse.reverse := s.reverse_reverse.symm
        _ = (s.reverse.takeWhile (fun c => !p c) ++ d :: rest).reverse := by rw [hparts]
        _ = rest.reverse ++ d :: (s.reverse.takeWhile fun c => !p c).reverse := by simp
    · have hhead := List.head?_dropWhile_not (fun c => !p c) s.reverse
      simpa [hdrop] using hhead

/-- What stands in brackets at the end of a text decides whether it is a suffix. -/
theorem lastSuffix?_brackets (s : List Char) {inside : List Char} (h : '[' ∉ inside) :
    lastSuffix? (s ++ '[' :: (inside ++ [']'])) = (readIndex? inside).map fun index =>
      (s, index) := by
  have hends : endsWith [']'] (s ++ '[' :: (inside ++ [']'])) = true := by
    rw [endsWith_iff]
    exact ⟨s ++ '[' :: inside, by simp⟩
  have hdrop : (s ++ '[' :: (inside ++ [']'])).dropLast = s ++ '[' :: inside := by
    rw [← List.cons_append, ← List.append_assoc, List.dropLast_concat]
  have hsplit : splitLast? (· == '[') (s ++ '[' :: inside) = some (s, '[', inside) := by
    refine splitLast?_append rfl s fun c hc => ?_
    rw [beq_eq_false_iff_ne]
    rintro rfl
    exact h hc
  rw [lastSuffix?, if_pos hends, hdrop, hsplit]
  simp only [Option.bind_eq_bind, Option.bind_some]
  cases readIndex? inside <;> rfl

/-- What stands behind a mark at the end of a text decides whether it is a suffix. -/
theorem lastSuffix?_mark (hs : s ≠ []) {mark : Char} (hmark : mark = '.' ∨ mark = '!')
    {after : List Char} (h : ∀ c ∈ after, c ≠ '.' ∧ c ≠ '!' ∧ c ≠ ']') :
    lastSuffix? (s ++ mark :: after) =
      (readIndex? (if mark = '!' then '!' :: after else after)).map fun index => (s, index) := by
  have hends : ¬endsWith [']'] (s ++ mark :: after) = true := by
    rw [endsWith_iff]
    rintro ⟨front, hfront⟩
    have hlast : (mark :: after).getLast? = some ']' := by
      rw [← List.getLast?_append_of_ne_nil s (List.cons_ne_nil mark after), ← hfront,
        List.getLast?_concat]
    rcases List.mem_cons.mp (List.mem_of_getLast? hlast) with rfl | hmem
    · rcases hmark with hmark | hmark <;> cases hmark
    · exact (h _ hmem).2.2 rfl
  have hsplit : splitLast? (fun c => c == '.' || c == '!') (s ++ mark :: after) =
      some (s, mark, after) := by
    refine splitLast?_append (by simpa using hmark) s fun c hc => ?_
    obtain ⟨hdot, hbang, -⟩ := h c hc
    rw [beq_eq_false_iff_ne.mpr hdot, beq_eq_false_iff_ne.mpr hbang, Bool.or_false]
  rw [lastSuffix?, if_neg hends, hsplit]
  simp only [Option.bind_eq_bind, Option.bind_some, List.isEmpty_iff, hs, if_false]
  cases readIndex? (if mark = '!' then '!' :: after else after) <;> rfl

/-- Behind whatever text a suffix is cut off whole. -/
theorem lastSuffix?_append (hs : s ≠ []) (x : Suffix) :
    lastSuffix? (s ++ x.text) = some (s, .ok x.index) := by
  rw [Suffix.text]
  split
  · rw [lastSuffix?_brackets s (x.not_mem_inside (by decide) (by decide) rfl), x.readIndex?_inside]
    rfl
  · have hinside : (if (if x.removes then '!' else '.') = '!' then '!' :: x.numeral
        else x.numeral) = x.inside := by
      cases hremoves : x.removes <;> simp [Suffix.inside, hremoves]
    rw [lastSuffix?_mark hs (by split <;> simp), hinside, x.readIndex?_inside]
    · rfl
    · intro c hc
      refine ⟨?_, ?_, ?_⟩ <;> rintro rfl
      · exact x.not_mem_numeral (by decide) rfl hc
      · exact x.not_mem_numeral (by decide) rfl hc
      · exact x.not_mem_numeral (by decide) rfl hc

/-! ## Texts without a suffix -/

/-- A text that ends with a blank has no suffix. -/
theorem isBlank_eq_false_of_lastSuffix? {before : List Char} {index : Except Failure Index}
    (h : lastSuffix? s = some (before, index)) {c : Char} (hc : c ∈ s.getLast?) :
    isBlank c = false := by
  rw [lastSuffix?] at h
  split at h
  · next hends =>
    obtain ⟨front, rfl⟩ := endsWith_iff.mp hends
    rw [List.getLast?_concat] at hc
    cases hc
    rfl
  · simp only [Option.bind_eq_bind, Option.bind_eq_some_iff, Prod.exists] at h
    obtain ⟨b, mark, after, hsplit, h⟩ := h
    split at h
    · cases h
    · simp only [Option.bind_eq_some_iff, Option.pure_def, Option.some.injEq,
        Prod.mk.injEq] at h
      obtain ⟨x, hread, rfl, rfl⟩ := h
      obtain ⟨rfl, hmark⟩ := eq_append_of_splitLast? hsplit
      rw [List.getLast?_append_of_ne_nil _ (List.cons_ne_nil _ _)] at hc
      rcases List.mem_cons.mp (List.mem_of_getLast? hc) with rfl | hafter
      · rw [Bool.or_eq_true, beq_iff_eq, beq_iff_eq] at hmark
        rcases hmark with rfl | rfl <;> rfl
      · refine isBlank_eq_false_of_readIndex? hread ?_
        split
        · exact List.mem_cons_of_mem _ hafter
        · exact hafter

/-- Blanks at the end make no suffix. -/
theorem lastSuffix?_append_of_isBlank {rest : List Char} (h : lastSuffix? s = none)
    (hrest : ∀ c ∈ rest, isBlank c = true) : lastSuffix? (s ++ rest) = none := by
  rcases List.eq_nil_or_concat rest with rfl | ⟨front, c, rfl⟩
  · rwa [List.append_nil]
  · by_contra hsuffix
    obtain ⟨⟨before, index⟩, hsome⟩ := Option.ne_none_iff_exists'.mp hsuffix
    have hlast : c ∈ (s ++ front.concat c).getLast? := by simp
    have hblank := hrest c (by simp)
    rw [isBlank_eq_false_of_lastSuffix? hsome hlast] at hblank
    contradiction

/-! ## Stacks -/

/-- Suffixes are taken off from the last one on; of several the last counts. -/
theorem splitIndexFrom_eq (found : Option Index) (s : List Char) :
    splitIndexFrom found s = match lastSuffix? s with
      | none => .ok (s, found)
      | some (_, .error failure) => .error failure
      | some (before, .ok index) => splitIndexFrom (some (found.getD index)) before := by
  rw [splitIndexFrom]
  split
  · next h => rw [h]
  · next before index h => cases index <;> simp only [h]

/-- A text without a suffix is left as it is. -/
theorem splitIndex_of_none (h : lastSuffix? s = none) : splitIndex s = .ok (s, none) := by
  rw [splitIndex, splitIndexFrom_eq, h]

/-- A suffix further right stays what counts. -/
theorem eq_some_of_splitIndexFrom {base : List Char} {index : Option Index} {found : Index}
    (h : splitIndexFrom (some found) s = .ok (base, index)) : index = some found := by
  generalize hstart : some found = start at h
  fun_induction splitIndexFrom start s with
  | case1 start s hnone =>
      cases h
      rfl
  | case2 => cases h
  | case3 start s before i _ _ ih =>
      subst hstart
      exact ih rfl h

/-- Suffixes are cut off down to the text that has none, and the rightmost counts. -/
theorem splitIndexFrom_append (hs : s ≠ []) (h : lastSuffix? s = none) (suffixes : List Suffix)
    (found : Option Index) :
    splitIndexFrom found (s ++ suffixes.flatMap Suffix.text) =
      .ok (s, found.or (suffixes.getLast?.map Suffix.index)) := by
  -- from the right, as the suffixes are cut off
  induction suffixes using List.reverseRecOn generalizing found with
  | nil =>
      rw [List.flatMap_nil, List.append_nil, splitIndexFrom_eq, h]
      simp
  | append_singleton front last ih =>
      have hne : s ++ front.flatMap Suffix.text ≠ [] := List.append_ne_nil_of_left_ne_nil hs _
      have hlast := lastSuffix?_append hne last
      rw [List.flatMap_append, List.flatMap_singleton, ← List.append_assoc,
        splitIndexFrom_eq, hlast, List.getLast?_concat]
      simp only [ih, Option.some_or]
      cases found <;> rfl

/-- A step has no index when no suffix ends it. -/
theorem hasNoIndex_iff {raw : List Char} : HasNoIndex raw ↔ lastSuffix? (trim raw) = none := by
  constructor
  · rintro ⟨base, hsplit⟩
    by_contra hsuffix
    obtain ⟨⟨before, index⟩, hsome⟩ := Option.ne_none_iff_exists'.mp hsuffix
    rw [splitIndex, splitIndexFrom_eq, hsome] at hsplit
    cases index with
    | error failure => cases hsplit
    | ok index => cases eq_some_of_splitIndexFrom hsplit
  · exact fun h => ⟨trim raw, splitIndex_of_none h⟩

/-! ## Steps -/

variable {raw : List Char}

/-- A step is read from what stands before its suffixes. -/
theorem read_of_splitIndex {base : List Char} {index : Option Index}
    (h : splitIndex (trim raw) = .ok (base, index)) :
    Step.read raw = (readSelection (trim base)).map fun selection => ⟨selection, index⟩ := by
  simp only [Step.read, h, bind, Except.bind]
  cases readSelection (trim base) <;> rfl

/-- Blanks stay between a step and its suffixes. -/
theorem trim_append_suffixes (raw : List Char) {suffixes : List Suffix} (h : suffixes ≠ []) :
    trim (raw ++ suffixes.flatMap Suffix.text) =
      trimStart raw ++ suffixes.flatMap Suffix.text := by
  have hblank : ∀ c ∈ suffixes.flatMap Suffix.text, ¬isBlank c = true := by
    intro c hc
    obtain ⟨x, -, hc⟩ := List.mem_flatMap.mp hc
    simp [x.isBlank_eq_false_of_mem_text hc]
  have hne : suffixes.flatMap Suffix.text ≠ [] := by
    obtain ⟨first, rest, rfl⟩ := List.exists_cons_of_ne_nil h
    exact List.append_ne_nil_of_left_ne_nil first.text_ne_nil _
  have htrim := trim_append_mark (fun c hc => hblank c (List.mem_of_head? hc))
    (fun c hc => hblank c (List.mem_of_getLast? hc)) hne raw []
  rwa [show trimEnd [] = [] from rfl, List.append_nil] at htrim

/-- Behind a step without suffix, suffixes change the index to what the last of them says. -/
theorem read_append_suffixes (hbase : trim raw ≠ []) (hindex : HasNoIndex raw)
    {suffixes : List Suffix} (h : suffixes ≠ []) :
    Step.read (raw ++ suffixes.flatMap Suffix.text) =
      (Step.read raw).map fun step =>
        { step with index := suffixes.getLast?.map Suffix.index } := by
  -- what is left once the suffixes are cut off may still end with blanks
  have hnone : lastSuffix? (trimStart raw) = none := by
    obtain ⟨rest, hrest, htrim⟩ := exists_eq_append_trimEnd (trimStart raw)
    rw [htrim]
    exact lastSuffix?_append_of_isBlank (hasNoIndex_iff.mp hindex) hrest
  have hne : trimStart raw ≠ [] := by
    intro hnil
    rw [trim, hnil] at hbase
    exact hbase rfl
  have hsplit : splitIndex (trim (raw ++ suffixes.flatMap Suffix.text)) =
      .ok (trimStart raw, suffixes.getLast?.map Suffix.index) := by
    simp [trim_append_suffixes raw h, splitIndex, splitIndexFrom_append hne hnone]
  have hplain := splitIndex_of_none (hasNoIndex_iff.mp hindex)
  rw [read_of_splitIndex hsplit, read_of_splitIndex hplain, trim_trimStart, trim_trim]
  cases readSelection (trim raw) <;> rfl

theorem read_append_suffix (hbase : trim raw ≠ []) (hindex : HasNoIndex raw) (x : Suffix) :
    Step.read (raw ++ x.text) =
      (Step.read raw).map fun step => { step with index := some x.index } := by
  have hread := read_append_suffixes hbase hindex (List.cons_ne_nil x [])
  rwa [List.flatMap_singleton] at hread

/-! ## Elements -/

/-- A position that is found lies in the list. -/
theorem resolvePosition_lt {length i : Nat} {n : Int} (h : resolvePosition length n = some i) :
    i < length := by
  rw [resolvePosition] at h
  split at h
  · split at h
    · next hlt =>
      cases h
      exact hlt
    · cases h
  · split at h
    · cases h
      omega
    · cases h

/-- A position that a list has stands between what is before it and what is behind it. -/
theorem exists_append_of_resolvePosition {α : Type} {items : List α} {i : Nat} {n : Int}
    (h : resolvePosition items.length n = some i) :
    ∃ before x after, items = before ++ x :: after ∧ i = before.length := by
  have hi := resolvePosition_lt h
  refine ⟨items.take i, items[i], items.drop (i + 1), ?_, ?_⟩
  · rw [← List.drop_eq_getElem_cons hi, List.take_append_drop]
  · rw [List.length_take, Nat.min_eq_left hi.le]

/-- The element kept stands at the position, counted from the end when it is negative. -/
theorem applyIndex_keep {α : Type} (n : Int) (items : List α) :
    applyIndex (some (.keep n)) items =
      (if 0 ≤ n then items[n.toNat]? else items.reverse[(-n).toNat - 1]?).toList := by
  rw [applyIndex, resolvePosition]
  congr 1
  split
  · next hfront =>
    split
    · rfl
    · next hlt => exact (List.getElem?_eq_none (Nat.le_of_not_lt hlt)).symm
  · next hback =>
    split
    · next hle =>
      rw [List.getElem?_reverse (by omega), Option.bind_some]
      congr 1
      omega
    · next hlt =>
      rw [List.getElem?_eq_none (by rw [List.length_reverse]; omega)]
      rfl

/-- Of places that differ, removing one leaves all that are not the one kept. -/
theorem applyIndex_remove (n : Int) {places : List Place}
    (h : places.Pairwise fun p q => p.path ≠ q.path) :
    applyIndex (some (.remove n)) places =
      places.filter fun p => !(applyIndex (some (.keep n)) places).any p.same := by
  rw [applyIndex, applyIndex]
  cases hplace : resolvePosition places.length n with
  | none => simp
  | some i =>
      obtain ⟨before, x, after, rfl, rfl⟩ := exists_append_of_resolvePosition hplace
      have hget : (before ++ x :: after)[before.length]? = some x := by simp
      have herase : (before ++ x :: after).eraseIdx before.length = before ++ after := by
        simp [List.eraseIdx_append_of_length_le]
      obtain ⟨-, hafter, hbefore⟩ := List.pairwise_append.mp h
      have hkept {p : Place} (hp : p ∈ before ++ after) : p.path ≠ x.path := by
        rcases List.mem_append.mp hp with hp | hp
        · exact hbefore p hp x List.mem_cons_self
        · exact ((List.pairwise_cons.mp hafter).1 p hp).symm
      have hall : (before ++ after).filter (fun p => !p.same x) = before ++ after :=
        List.filter_eq_self.mpr fun p hp => by simpa [Place.same] using hkept hp
      have hself : (!x.same x) = false := by simp [Place.same]
      simp only [Option.bind_some, hget, herase, Option.toList_some, List.any_cons, List.any_nil,
        Bool.or_false]
      rw [List.filter_append, List.filter_cons_of_neg (by simp [hself]), ← List.filter_append,
        hall]

/-- A step finds an element once inside a place. -/
theorem pairwise_path_inside {step : Step} (hread : Step.read raw = .ok step) (root : Place) :
    (step.selection.inside root).Pairwise fun p q => p.path ≠ q.path := by
  have hsorted := inDocumentOrder_stepPlaces raw root
  rw [stepPlaces_of_read hread] at hsorted
  exact hsorted.imp Place.Before.path_ne

/-- Inside one root the index counts what the selection finds there. -/
theorem apply_singleton (step : Step) (root : Place) :
    step.apply [root] = applyIndex step.index (step.selection.inside root) :=
  List.flatMap_singleton _ root

/-- A step is applied to one root after the other. -/
theorem apply_eq_flatMap (step : Step) (roots : List Place) :
    step.apply roots = roots.flatMap fun root => step.apply [root] := by
  simp only [apply_singleton]
  rfl

/-- A position as a suffix: behind a mark or in brackets, to keep or to remove. -/
def positionSuffix (removes bracketed : Bool) {n : Int} (hleast : -(Int.pow 2 63) ≤ n)
    (hmost : n ≤ Int.pow 2 63 - 1) : Suffix :=
  ⟨removes, bracketed, (toString n).toList, n, position64?_toString hleast hmost⟩

/-- **Index suffixes.**  Let a step have a base and no suffix.  A stack of suffixes behind it
acts as the last of them, and brackets say what marks say.  The step is read with the
suffixes of a position exactly when it is read without; the one keeps, inside each place,
the element at the position, if there is one, and the other keeps the other elements in their
order, which are told apart by their paths. -/
theorem read_indexed (hbase : trim raw ≠ []) (hindex : HasNoIndex raw) :
    (∀ (suffixes : List Suffix) (last : Suffix),
      Step.read (raw ++ (suffixes ++ [last]).flatMap Suffix.text) = Step.read (raw ++ last.text)) ∧
    ∀ n : Int, -(Int.pow 2 63) ≤ n → n ≤ Int.pow 2 63 - 1 →
      Step.read (raw ++ '[' :: ((toString n).toList ++ [']'])) =
        Step.read (raw ++ '.' :: (toString n).toList) ∧
      Step.read (raw ++ '[' :: '!' :: ((toString n).toList ++ [']'])) =
        Step.read (raw ++ '!' :: (toString n).toList) ∧
      (∀ failure, Step.read raw = .error failure →
        Step.read (raw ++ '.' :: (toString n).toList) = .error failure ∧
        Step.read (raw ++ '!' :: (toString n).toList) = .error failure) ∧
      ∀ step, Step.read raw = .ok step → ∃ keeps removes,
        Step.read (raw ++ '.' :: (toString n).toList) = .ok keeps ∧
        Step.read (raw ++ '!' :: (toString n).toList) = .ok removes ∧
        ∀ roots,
          keeps.apply roots = roots.flatMap (fun root =>
            (if 0 ≤ n then (step.apply [root])[n.toNat]?
              else (step.apply [root]).reverse[(-n).toNat - 1]?).toList) ∧
          removes.apply roots = roots.flatMap (fun root =>
            (step.apply [root]).filter fun p => !(keeps.apply [root]).any p.same) ∧
          ∀ root ∈ roots, (step.apply [root]).Pairwise fun p q => p.path ≠ q.path := by
  refine ⟨fun suffixes last => ?_, fun n hleast hmost => ?_⟩
  · have hne : suffixes ++ [last] ≠ [] := List.append_ne_nil_of_right_ne_nil _ (by simp)
    rw [read_append_suffixes hbase hindex hne, read_append_suffix hbase hindex,
      List.getLast?_concat, Option.map_some]
  · have hread (removes bracketed : Bool) :=
      read_append_suffix hbase hindex (positionSuffix removes bracketed hleast hmost)
    have hdot : Step.read (raw ++ '.' :: (toString n).toList) = (Step.read raw).map fun step =>
        { step with index := some (.keep n) } := hread false false
    have hbang : Step.read (raw ++ '!' :: (toString n).toList) = (Step.read raw).map fun step =>
        { step with index := some (.remove n) } := hread true false
    refine ⟨(hread false true).trans hdot.symm, (hread true true).trans hbang.symm, ?_, ?_⟩
    · intro failure hfailure
      rw [hdot, hbang, hfailure]
      exact ⟨rfl, rfl⟩
    · intro step hstep
      rw [hdot, hbang, hstep]
      have hplain (root : Place) : step.apply [root] = step.selection.inside root := by
        rw [apply_singleton, index_of_read hindex hstep, applyIndex]
      refine ⟨_, _, rfl, rfl, fun roots => ⟨?_, ?_, ?_⟩⟩
      · rw [apply_eq_flatMap]
        refine List.flatMap_congr fun root _ => ?_
        rw [apply_singleton, hplain]
        exact applyIndex_keep n _
      · rw [apply_eq_flatMap]
        refine List.flatMap_congr fun root _ => ?_
        rw [apply_singleton, apply_singleton, hplain]
        exact applyIndex_remove n (pairwise_path_inside hstep root)
      · intro root _
        rw [hplain]
        exact pairwise_path_inside hstep root

/-- A body with three paragraphs. -/
def threeParagraphs : Node :=
  .element ⟨.html, "body", []⟩ [paragraph "x", paragraph "y", paragraph "z"]

/-- The last paragraph, and all but the last. -/
theorem read_indexed_lastParagraph :
    trim "tag.p".toList ≠ [] ∧ HasNoIndex "tag.p".toList ∧
      ∃ keeps removes, Step.read "tag.p.-1".toList = .ok keeps ∧
        Step.read "tag.p!-1".toList = .ok removes ∧
        (keeps.apply [Place.root threeParagraphs]).map Place.path = [[2]] ∧
        (removes.apply [Place.root threeParagraphs]).map Place.path = [[0], [1]] := by
  have hbase : trim "tag.p".toList ≠ [] := by decide
  have hindex : HasNoIndex "tag.p".toList := ⟨"tag.p".toList, by decide +kernel⟩
  obtain ⟨step, hstep, hplaces⟩ : ∃ step, Step.read "tag.p".toList = .ok step ∧
      (step.apply [Place.root threeParagraphs]).map Place.path = [[0], [1], [2]] := by
    have hread : ((Step.read "tag.p".toList).toOption.map fun step =>
        (step.apply [Place.root threeParagraphs]).map Place.path) = some [[0], [1], [2]] := by
      decide +kernel
    cases hstep : Step.read "tag.p".toList with
    | error failure =>
        rw [hstep] at hread
        cases hread
    | ok step =>
        rw [hstep] at hread
        exact ⟨step, rfl, Option.some.inj hread⟩
  obtain ⟨-, -, -, hreads⟩ := (read_indexed hbase hindex).2 (-1) (by decide) (by decide)
  obtain ⟨keeps, removes, hkeeps, hremoves, happly⟩ := hreads step hstep
  refine ⟨hbase, hindex, keeps, removes, hkeeps, hremoves, ?_⟩
  obtain ⟨hkept, hleft, -⟩ := happly [Place.root threeParagraphs]
  obtain ⟨x, rest, hfound, hx, hrest⟩ := List.map_eq_cons_iff.mp hplaces
  obtain ⟨y, rest, rfl, hy, hrest⟩ := List.map_eq_cons_iff.mp hrest
  obtain ⟨z, rfl, hz⟩ := List.map_eq_singleton_iff.mp hrest
  rw [List.flatMap_singleton, hfound] at hkept hleft
  have hlast : keeps.apply [Place.root threeParagraphs] = [z] := hkept
  rw [hlast]
  rw [hlast] at hleft
  rw [hleft]
  simp [Place.same, hx, hy, hz]

end Folio.Rule
