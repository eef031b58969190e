import Folio.Proofs.Rule.Chain
import Folio.Proofs.Rule.Emptiness

/-!
# Folio.Proofs.Rule.Position

Positions as words of a machine.  What a condition asks is said over the
integers (`Predicate.Meets`).  The evaluator compares signed numbers, which stay
in range, and adds in one place, where `last()-k` is compared with the size.
That sum is too great for offsets near the greatest word: a candidate gets no
answer exactly when evaluation comes to such a sum, and every answer is the right
one (`Predicate.holds_eq_none_iff`, `Predicate.holds_iff_meets`).

What one condition keeps has an answer exactly when all its candidates have one
(`Predicate.isSome_keep_iff`), and so a whole path has one where no offset comes
near the greatest word (`LocationPath.isSome_evaluate_of_offsets`).
-/

namespace Folio.Rule

open Folio.Text Folio.Markup Folio.Script

/-! ## What conditions ask -/

/-- A candidate at a position among `size` meets a condition, over the
integers. -/
def Predicate.Meets (item : PathItem) (position size : Nat) : Predicate → Prop
  | .position n => position = n
  | .last offset => (position : Int) = size - offset
  | .positionIs o n => o.holds position n = true
  | .has operand =>
    if operand.isPresence then operand.values item ≠ []
    else ∃ actual ∈ operand.values item, actual ≠ ""
  | .equals operand value negate =>
    ∃ actual ∈ operand.values item, if negate then actual ≠ value else actual = value
  | .contains operand value => ∃ actual ∈ operand.values item, value.toList <:+: actual.toList
  | .startsWith operand value => ∃ actual ∈ operand.values item, value.toList <+: actual.toList
  | .not inner => ¬inner.Meets item position size
  | .and left right => left.Meets item position size ∧ right.Meets item position size
  | .or left right => left.Meets item position size ∨ right.Meets item position size

/-- Evaluation comes to the sum of the position and an offset. -/
inductive Predicate.Reaches (item : PathItem) (position size : Nat) : Predicate → Nat → Prop
  | last (offset : Nat) : Reaches item position size (.last offset) offset
  | not {inner : Predicate} {offset : Nat} (h : Reaches item position size inner offset) :
      Reaches item position size (.not inner) offset
  | andLeft {left right : Predicate} {offset : Nat}
      (h : Reaches item position size left offset) :
      Reaches item position size (.and left right) offset
  | andRight {left right : Predicate} {offset : Nat}
      (hleft : left.Meets item position size)
      (h : Reaches item position size right offset) :
      Reaches item position size (.and left right) offset
  | orLeft {left right : Predicate} {offset : Nat}
      (h : Reaches item position size left offset) :
      Reaches item position size (.or left right) offset
  | orRight {left right : Predicate} {offset : Nat}
      (hleft : ¬left.Meets item position size)
      (h : Reaches item position size right offset) :
      Reaches item position size (.or left right) offset

/-- The numbers of a condition are in the range of their types. -/
def Predicate.Fits : Predicate → Prop
  | .position n => n < Nat.pow 2 64
  | .last offset => offset < Nat.pow 2 64
  | .positionIs _ n => -(Int.pow 2 63) ≤ n ∧ n < Int.pow 2 63
  | .not inner => inner.Fits
  | .and left right => left.Fits ∧ right.Fits
  | .or left right => left.Fits ∧ right.Fits
  | _ => True

/-- The evaluator has an answer for each of some candidates, and that is the one
over the integers. -/
def Predicate.IsExactOn (p : Predicate) (items : List PathItem) : Prop :=
  ∀ i item, items[i]? = some item →
    ∃ holds, p.holds item (i + 1) items.length = some holds ∧
      (holds = true ↔ p.Meets item (i + 1) items.length)

/-! ## Numbers that are read -/

/-- A number that is read does not exceed the bound. -/
theorem le_of_naturalUpTo? {most n : Nat} {s : List Char} (h : naturalUpTo? most s = some n) :
    n ≤ most := by
  simpa using (Option.filter_eq_some_iff.mp h).2

/-- An offset that is read fits its type. -/
theorem fits_of_readLast {text rest : List Char} {p : Predicate}
    (h : readLast text rest = .ok p) : p.Fits := by
  rw [readLast] at h
  split at h
  · cases h
    exact (by decide : 0 < Nat.pow 2 64)
  · split at h
    · next offset hoffset =>
      obtain ⟨digits, -, hdigits⟩ := Option.bind_eq_some_iff.mp hoffset
      have hmost := le_of_naturalUpTo? hdigits
      cases h
      exact Nat.lt_of_le_of_lt hmost (by decide)
    · contradiction

/-- So does a number that the position is compared with. -/
theorem fits_of_readOrder {text rest : List Char} {p : Predicate}
    (h : readOrder text rest = .ok p) : p.Fits := by
  rw [readOrder] at h
  split at h
  · contradiction
  · split at h
    · next n hn =>
      have hbounds := (Option.filter_eq_some_iff.mp hn).2
      cases h
      simp only [Bool.and_eq_true, decide_eq_true_eq] at hbounds
      exact ⟨hbounds.1, by omega⟩
    · contradiction

/-- A comparison with a literal holds no numbers. -/
theorem fits_of_readEquality {text : List Char} {p : Predicate}
    (h : readEquality text = .ok p) : p.Fits := by
  have hcompare {negate : Bool} {operand value : List Char}
      (h : (do
        let operand ← Operand.read operand
        let value ← readLiteral value
        return Predicate.equals operand value negate) = Except.ok p) : p.Fits := by
    obtain ⟨operand, -, h⟩ := exists_of_bind_eq_ok h
    obtain ⟨value, -, h⟩ := exists_of_bind_eq_ok h
    cases h
    trivial
  rw [readEquality] at h
  split at h
  · exact hcompare h
  · split at h
    · exact hcompare h
    · cases hoperand : Operand.read text with
      | error failure => rw [hoperand] at h; contradiction
      | ok operand => rw [hoperand] at h; cases h; trivial

/-- The numbers of an atom that is read fit their types. -/
theorem fits_of_readAtom {text : List Char} {p : Predicate} (h : readAtom text = .ok p) :
    p.Fits := by
  rw [readAtom] at h
  split at h
  · contradiction
  · next n _ hn =>
    cases h
    exact Nat.lt_of_le_of_lt (le_of_naturalUpTo? hn) (by decide)
  · split at h
    · exact fits_of_readLast h
    · split at h
      · exact fits_of_readOrder h
      · split at h
        · contradiction
        · cases h
          trivial
        · split at h
          · contradiction
          · cases h
            trivial
          · exact fits_of_readEquality h

/-- Whatever is read, and whatever is joined to it, has its numbers in range. -/
theorem fits_of_readWith (fuel : Nat) :
    (∀ text p, Predicate.readWith fuel text = .ok p → p.Fits) ∧
      ∀ join, (∀ left right : Predicate, left.Fits → right.Fits → (join left right).Fits) →
        ∀ left parts p, left.Fits → foldPredicates fuel join left parts = .ok p → p.Fits := by
  induction fuel with
  | zero =>
      refine ⟨fun text p h => by rw [Predicate.readWith] at h; contradiction, ?_⟩
      intro join _ left parts p hleft h
      cases parts with
      | nil => rw [foldPredicates] at h; cases h; exact hleft
      | cons part parts => rw [foldPredicates] at h; contradiction
  | succ fuel ih =>
      obtain ⟨hread, hfold⟩ := ih
      refine ⟨fun text p h => ?_, fun join hjoin left parts p hleft h => ?_⟩
      · rw [Predicate.readWith] at h
        split at h
        · obtain ⟨left, hleft, h⟩ := exists_of_bind_eq_ok h
          exact hfold .or (fun _ _ => And.intro) left _ p (hread _ _ hleft) h
        · split at h
          · obtain ⟨left, hleft, h⟩ := exists_of_bind_eq_ok h
            exact hfold .and (fun _ _ => And.intro) left _ p (hread _ _ hleft) h
          · split at h
            · next inner _ =>
              cases hinner : Predicate.readWith fuel inner with
              | error failure => rw [hinner] at h; contradiction
              | ok q =>
                  rw [hinner] at h
                  cases h
                  exact hread inner q hinner
            · exact fits_of_readAtom h
      · cases parts with
        | nil => rw [foldPredicates] at h; cases h; exact hleft
        | cons part parts =>
            rw [foldPredicates] at h
            obtain ⟨right, hright, h⟩ := exists_of_bind_eq_ok h
            exact hfold join hjoin _ parts p (hjoin left right hleft (hread part right hright)) h

/-- The numbers of a condition that is read are in range. -/
theorem fits_of_read {text : List Char} {p : Predicate} (h : Predicate.read text = .ok p) :
    p.Fits :=
  (fits_of_readWith _).1 text p h

/-! ## Answers -/

/-- A sum has no word exactly when it exceeds the greatest. -/
@[simp] theorem addWords?_eq_none_iff {a b : Nat} :
    addWords? a b = none ↔ Nat.pow 2 64 ≤ a + b := by
  simp [addWords?]

/-- Otherwise it is the sum. -/
theorem eq_of_addWords? {a b sum : Nat} (h : addWords? a b = some sum) : sum = a + b := by
  rw [addWords?] at h
  split at h
  · exact (Option.some.inj h).symm
  · contradiction

/-- A position is itself as a signed number. -/
theorem signedWord_eq_self {n : Nat} (h : n < Nat.pow 2 63) : signedWord n = n :=
  if_pos h

section Answers

variable {item : PathItem} {position size : Nat} {p : Predicate}

/-- Every answer is the one over the integers. -/
theorem Predicate.holds_iff_meets (hposition : position < Nat.pow 2 63) {holds : Bool}
    (h : p.holds item position size = some holds) :
    holds = true ↔ p.Meets item position size := by
  induction p generalizing holds with
  | position n =>
      obtain rfl := Option.some.inj h
      exact beq_iff_eq
  | last offset =>
      obtain ⟨sum, hsum, rfl⟩ := Option.map_eq_some_iff.mp h
      rw [beq_iff_eq, eq_of_addWords? hsum, Predicate.Meets]
      omega
  | positionIs o n =>
      obtain rfl := Option.some.inj h
      rw [signedWord_eq_self hposition, Predicate.Meets]
  | not inner ih =>
      obtain ⟨b, hb, rfl⟩ := Option.map_eq_some_iff.mp h
      rw [Predicate.Meets, ← ih hb]
      simp
  | and left right ihleft ihright =>
      rw [Predicate.holds] at h
      rw [Predicate.Meets]
      cases hleft : left.holds item position size with
      | none => rw [hleft] at h; contradiction
      | some b =>
          rw [hleft] at h
          rw [← ihleft hleft]
          cases b with
          | true => rw [← ihright h]; simp
          | false => obtain rfl := Option.some.inj h; simp
  | or left right ihleft ihright =>
      rw [Predicate.holds] at h
      rw [Predicate.Meets]
      cases hleft : left.holds item position size with
      | none => rw [hleft] at h; contradiction
      | some b =>
          rw [hleft] at h
          rw [← ihleft hleft]
          cases b with
          | true => obtain rfl := Option.some.inj h; simp
          | false => rw [← ihright h]; simp
  | has operand =>
      obtain rfl := Option.some.inj h
      cases hpresence : operand.isPresence <;> simp [Predicate.Meets, hpresence]
  | equals operand value negate =>
      obtain rfl := Option.some.inj h
      cases negate <;> simp [Predicate.Meets]
  | contains operand value =>
      obtain rfl := Option.some.inj h
      simp [Predicate.Meets, contains_iff]
  | startsWith operand value =>
      obtain rfl := Option.some.inj h
      simp [Predicate.Meets, startsWith_iff]

/-- There is no answer exactly where evaluation comes to a sum that is no word. -/
theorem Predicate.holds_eq_none_iff (hposition : position < Nat.pow 2 63) :
    p.holds item position size = none ↔
      ∃ k, p.Reaches item position size k ∧ Nat.pow 2 64 ≤ position + k := by
  induction p with
  | last offset =>
      rw [Predicate.holds, Option.map_eq_none_iff, addWords?_eq_none_iff]
      constructor
      · exact fun h => ⟨offset, .last offset, h⟩
      · rintro ⟨_, ⟨⟩, h⟩
        exact h
  | not inner ih =>
      rw [Predicate.holds, Option.map_eq_none_iff, ih]
      constructor
      · rintro ⟨k, hk, h⟩
        exact ⟨k, .not hk, h⟩
      · rintro ⟨k, hk, h⟩
        cases hk with
        | not hk => exact ⟨k, hk, h⟩
  | and left right ihleft ihright =>
      have hmeets {b : Bool} (hb : left.holds item position size = some b) :=
        holds_iff_meets hposition hb
      constructor
      · intro h
        rw [Predicate.holds] at h
        split at h
        · next hleft =>
          obtain ⟨k, hk, hsum⟩ := ihright.mp h
          exact ⟨k, .andRight ((hmeets hleft).mp rfl) hk, hsum⟩
        · obtain ⟨k, hk, hsum⟩ := ihleft.mp h
          exact ⟨k, .andLeft hk, hsum⟩
      · rintro ⟨k, hk, hsum⟩
        rw [Predicate.holds]
        cases hk with
        | andLeft hk => rw [ihleft.mpr ⟨k, hk, hsum⟩]
        | andRight hleft hk =>
            cases hanswer : left.holds item position size with
            | none => rfl
            | some b =>
                rw [(hmeets hanswer).mpr hleft]
                exact ihright.mpr ⟨k, hk, hsum⟩
  | or left right ihleft ihright =>
      have hmeets {b : Bool} (hb : left.holds item position size = some b) :=
        holds_iff_meets hposition hb
      constructor
      · intro h
        rw [Predicate.holds] at h
        split at h
        · next hleft =>
          obtain ⟨k, hk, hsum⟩ := ihright.mp h
          exact ⟨k, .orRight (fun hm => Bool.false_ne_true ((hmeets hleft).mpr hm)) hk, hsum⟩
        · obtain ⟨k, hk, hsum⟩ := ihleft.mp h
          exact ⟨k, .orLeft hk, hsum⟩
      · rintro ⟨k, hk, hsum⟩
        rw [Predicate.holds]
        cases hk with
        | orLeft hk => rw [ihleft.mpr ⟨k, hk, hsum⟩]
        | orRight hleft hk =>
            cases hanswer : left.holds item position size with
            | none => rfl
            | some b =>
                rw [Bool.eq_false_iff.mpr fun hb => hleft ((hmeets hanswer).mp hb)]
                exact ihright.mpr ⟨k, hk, hsum⟩
  | position n => exact iff_of_false (by simp [Predicate.holds]) (by rintro ⟨k, ⟨⟩, -⟩)
  | positionIs o n => exact iff_of_false (by simp [Predicate.holds]) (by rintro ⟨k, ⟨⟩, -⟩)
  | has operand => exact iff_of_false (by simp [Predicate.holds]) (by rintro ⟨k, ⟨⟩, -⟩)
  | equals operand value negate =>
      exact iff_of_false (by simp [Predicate.holds]) (by rintro ⟨k, ⟨⟩, -⟩)
  | contains operand value =>
      exact iff_of_false (by simp [Predicate.holds]) (by rintro ⟨k, ⟨⟩, -⟩)
  | startsWith operand value =>
      exact iff_of_false (by simp [Predicate.holds]) (by rintro ⟨k, ⟨⟩, -⟩)

/-- The last item but `k` is at the position that is `k` less than the size. -/
theorem holds_last_iff {k : Nat} (hposition : position ≤ size) (hsize : size < Nat.pow 2 63) :
    (Predicate.last k).holds item position size = some true ↔ (position : Int) = size - k := by
  constructor
  · exact fun h => (Predicate.holds_iff_meets (Nat.lt_of_le_of_lt hposition hsize) h).mp rfl
  · intro h
    have hpower : Nat.pow 2 64 = 2 * Nat.pow 2 63 := rfl
    have hsum : position + k = size := by omega
    have hword : addWords? position k = some size := by
      rw [addWords?, hsum, if_pos (by omega)]
    simp [Predicate.holds, hword]

end Answers

/-! ## Candidates -/

/-- A predicate keeps some of a list exactly when it has an answer for each item there. -/
theorem isSome_keepFrom_iff {p : Predicate} {size position : Nat} {items : List PathItem} :
    (p.keepFrom size position items).isSome = true ↔
      ∀ i item, items[i]? = some item → (p.holds item (position + i) size).isSome = true := by
  induction items generalizing position with
  | nil => simp [Predicate.keepFrom]
  | cons item items ih =>
      have hcons : (p.keepFrom size position (item :: items)).isSome = true ↔
          (p.holds item position size).isSome = true ∧
            (p.keepFrom size (position + 1) items).isSome = true := by
        rw [Predicate.keepFrom]
        cases p.holds item position size with
        | none => simp
        | some holds => cases p.keepFrom size (position + 1) items <;> simp
      rw [hcons, ih]
      constructor
      · rintro ⟨hfirst, hrest⟩ i other hother
        cases i with
        | zero =>
            obtain rfl := Option.some.inj hother
            exact hfirst
        | succ i =>
            have hi := hrest i other hother
            rwa [Nat.add_assoc, Nat.add_comm 1 i] at hi
      · intro h
        refine ⟨h 0 item rfl, fun i other hother => ?_⟩
        have hi := h (i + 1) other hother
        rwa [Nat.add_comm i 1, ← Nat.add_assoc] at hi

/-- The position of an item is at most the number of items. -/
theorem position_le_length {items : List PathItem} {i : Nat} {item : PathItem}
    (h : items[i]? = some item) : i + 1 ≤ items.length :=
  (List.getElem?_eq_some_iff.mp h).1

/-- What a condition keeps of some candidates has an answer exactly when the
condition is exact on them. -/
theorem Predicate.isSome_keep_iff {p : Predicate} {items : List PathItem}
    (hitems : items.length < Nat.pow 2 63) :
    (p.keep items).isSome = true ↔ p.IsExactOn items := by
  rw [Predicate.keep, isSome_keepFrom_iff]
  refine forall₃_congr fun i item hitem => ?_
  have hposition := Nat.lt_of_le_of_lt (position_le_length hitem) hitems
  rw [Nat.add_comm 1 i, Option.isSome_iff_exists]
  constructor
  · rintro ⟨holds, hholds⟩
    exact ⟨holds, hholds, holds_iff_meets hposition hholds⟩
  · rintro ⟨holds, hholds, -⟩
    exact ⟨holds, hholds⟩

/-- A condition is exact where evaluation comes to no sum that is no word. -/
theorem Predicate.isExactOn_iff {p : Predicate} {items : List PathItem}
    (hitems : items.length < Nat.pow 2 63) :
    p.IsExactOn items ↔ ∀ i item, items[i]? = some item →
      ∀ k, p.Reaches item (i + 1) items.length k → i + 1 + k < Nat.pow 2 64 := by
  refine forall₃_congr fun i item hitem => ?_
  have hposition := Nat.lt_of_le_of_lt (position_le_length hitem) hitems
  constructor
  · rintro ⟨holds, hholds, -⟩ k hk
    by_contra hsum
    have hnone := (holds_eq_none_iff hposition).mpr ⟨k, hk, Nat.not_lt.mp hsum⟩
    rw [hholds] at hnone
    contradiction
  · intro h
    cases hholds : p.holds item (i + 1) items.length with
    | none =>
        obtain ⟨k, hk, hsum⟩ := (holds_eq_none_iff hposition).mp hholds
        exact absurd (h k hk) (Nat.not_lt.mpr hsum)
    | some holds => exact ⟨holds, rfl, holds_iff_meets hposition hholds⟩

/-! ## Paths -/

/-- The offsets from the last position that a condition names. -/
def Predicate.offsets : Predicate → List Nat
  | .last offset => [offset]
  | .not inner => inner.offsets
  | .and left right => left.offsets ++ right.offsets
  | .or left right => left.offsets ++ right.offsets
  | _ => []

/-- What an evaluation comes to are offsets of the predicate. -/
theorem Predicate.Reaches.mem_offsets {item : PathItem} {position size k : Nat} {p : Predicate}
    (h : p.Reaches item position size k) : k ∈ p.offsets := by
  induction h with
  | last offset => exact List.mem_cons_self
  | not _ ih => exact ih
  | andLeft _ ih => exact List.mem_append_left _ ih
  | andRight _ _ ih => exact List.mem_append_right _ ih
  | orLeft _ ih => exact List.mem_append_left _ ih
  | orRight _ _ ih => exact List.mem_append_right _ ih

/-- Conditions have an answer for candidates that are not too many for their
offsets. -/
theorem isSome_keepAll_of_offsets {ps : List Predicate} {most : Nat} (hmost : most < Nat.pow 2 63)
    (h : ∀ p ∈ ps, ∀ k ∈ p.offsets, most + k < Nat.pow 2 64) {items : List PathItem}
    (hitems : items.length ≤ most) : (keepAll ps items).isSome = true := by
  induction ps generalizing items with
  | nil => rfl
  | cons p ps ih =>
      obtain ⟨hp, hps⟩ := List.forall_mem_cons.mp h
      have hexact : p.IsExactOn items := by
        rw [Predicate.isExactOn_iff (Nat.lt_of_le_of_lt hitems hmost)]
        intro i item hitem k hk
        have hposition := position_le_length hitem
        have hsum := hp k hk.mem_offsets
        omega
      obtain ⟨kept, hkept⟩ := Option.isSome_iff_exists.mp
        ((Predicate.isSome_keep_iff (Nat.lt_of_le_of_lt hitems hmost)).mpr hexact)
      rw [keepAll, hkept]
      exact ih hps ((keepFrom_sublist hkept).length_le.trans hitems)

/-- The contexts of a step are in the tree that its items are in. -/
theorem PathStep.within_of_mem_contexts {tree : Node} {step : PathStep} {items : List PathItem}
    (h : ∀ c, .node c ∈ items → c.element.Within tree) {c : PathContext}
    (hc : c ∈ step.contexts items) : c.element.Within tree := by
  obtain ⟨outer, houter, hc⟩ := List.mem_flatMap.mp hc
  have hwithin := h outer (mem_itemContexts.mp houter)
  split at hc
  · exact (mem_withDescendants_iff.mp hc).within hwithin
  · rwa [List.mem_singleton.mp hc]

/-- **Paths without great offsets.**  In a tree in which a step has at most so many
candidates, a path has an answer when no offset is as near to the greatest word
as that. -/
theorem LocationPath.isSome_evaluate_of_offsets {tree : Node} {element : Place}
    (h : element.Within tree) {path : LocationPath} {most : Nat} (hmost : most < Nat.pow 2 63)
    (hcandidates : ∀ step ∈ path.steps, ∀ c : PathContext, c.element.Within tree →
      (step.test.candidates c).length ≤ most)
    (hoffsets : ∀ step ∈ path.steps, ∀ p ∈ step.predicates, ∀ k ∈ p.offsets,
      most + k < Nat.pow 2 64) : (path.evaluate element).isSome = true := by
  refine isSome_applySteps (P := fun items => ∀ c, .node c ∈ items → c.element.Within tree)
    (fun step hstep items hitems => ?_) (fun step _ items next hnext hitems d hd => ?_) ?_
  · refine Option.isSome_iff_exists.mpr ⟨_, PathStep.apply_eq_some_iff.mpr ⟨fun c hc => ?_, rfl⟩⟩
    exact isSome_keepAll_of_offsets hmost (hoffsets step hstep)
      (hcandidates step hstep c (PathStep.within_of_mem_contexts hitems hc))
  · obtain ⟨c, hc, hleads⟩ := (node_mem_apply_iff hnext hitems).mp hd
    exact hleads.within (hitems c hc)
  · intro c hc
    obtain rfl := PathItem.node.inj (List.mem_singleton.mp hc)
    exact within_start path h

/-! ## Positions -/

/-- **Positions.**  The numbers of a condition that is read are in range, and a
list in memory has fewer than `2 ^ 63` items.  On such a list of candidates all
positions are themselves as signed numbers, and every answer is the one over the
integers.  There is one for all candidates, and so for what is kept of them,
exactly when no position and offset that evaluation comes to add up to more than
a word.  In any case `last()-k` holds for just the candidate that `k` others
follow. -/
theorem isExactOn_iff_reaches {text : List Char} {p : Predicate}
    (hread : Predicate.read text = .ok p) {items : List PathItem}
    (hitems : items.length < Nat.pow 2 63) :
    p.Fits ∧
    (p.IsExactOn items ↔ ∀ i item, items[i]? = some item →
      ∀ k, p.Reaches item (i + 1) items.length k → i + 1 + k < Nat.pow 2 64) ∧
    ((p.keep items).isSome = true ↔ p.IsExactOn items) ∧
    (∀ i item, items[i]? = some item → ∀ holds,
      p.holds item (i + 1) items.length = some holds →
        (holds = true ↔ p.Meets item (i + 1) items.length)) ∧
    (∀ i < items.length, signedWord (i + 1) = (i + 1 : Nat)) ∧
    ∀ k i item, items[i]? = some item →
      ((Predicate.last k).holds item (i + 1) items.length = some true ↔
        ((i + 1 : Nat) : Int) = items.length - k) := by
  refine ⟨fits_of_read hread, Predicate.isExactOn_iff hitems, Predicate.isSome_keep_iff hitems,
    fun i item hitem holds hholds => ?_, fun i hi => ?_, fun k i item hitem => ?_⟩
  · exact Predicate.holds_iff_meets (Nat.lt_of_le_of_lt (position_le_length hitem) hitems) hholds
  · exact signedWord_eq_self (Nat.lt_of_le_of_lt hi hitems)
  · exact holds_last_iff (position_le_length hitem) hitems

/-- Three candidates. -/
def threeTexts : List PathItem := [.text "a", .text "b", .text "c"]

/-- With three candidates the greatest offset in range is three below the greatest
word. -/
theorem isExactOn_iff_reaches_threeTexts :
    Predicate.read "last()-18446744073709551612 or last()".toList =
        .ok (.or (.last 18446744073709551612) (.last 0)) ∧
      threeTexts.length < Nat.pow 2 63 ∧
      (Predicate.or (.last 18446744073709551612) (.last 0)).IsExactOn threeTexts ∧
      (Predicate.last 1).holds (.text "b") 2 3 = some true := by
  have hread : Predicate.read "last()-18446744073709551612 or last()".toList =
      .ok (.or (.last 18446744073709551612) (.last 0)) := by rfl
  have hlength : threeTexts.length < Nat.pow 2 63 := by decide
  obtain ⟨-, hexact, -, -, -, hlast⟩ := isExactOn_iff_reaches hread hlength
  refine ⟨hread, hlength, hexact.mpr fun i item hitem k hk => ?_, (hlast 1 1 _ rfl).mpr rfl⟩
  have hposition : i + 1 ≤ 3 := position_le_length hitem
  have hpower : Nat.pow 2 64 = 18446744073709551616 := rfl
  cases hk with
  | orLeft h => cases h; omega
  | orRight _ h => cases h; omega

/-- The sum of the first position and the greatest offset is no word, so that the
program stops at it. -/
theorem not_isExactOn_greatestOffset :
    (Predicate.read "last()-18446744073709551615".toList).toOption =
        some (.last 18446744073709551615) ∧
      (texts (fun _ _ => pure (.ok .empty)) "" (.text "<ul><li>a</li></ul>")
        "//li[last()-18446744073709551615]").stops = true ∧
      ¬(Predicate.last 18446744073709551615).IsExactOn [.text "a"] := by
  refine ⟨by decide +kernel, by decide +kernel, fun h => ?_⟩
  obtain ⟨holds, hholds, -⟩ := h 0 (.text "a") rfl
  have hstops : (Predicate.last 18446744073709551615).holds (.text "a") 1 1 = none := rfl
  have hholds := hstops.symm.trans hholds
  contradiction

end Folio.Rule
