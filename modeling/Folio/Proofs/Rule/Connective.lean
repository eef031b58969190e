import Folio.Proofs.Rule.Condition

/-!
# Folio.Proofs.Rule.Connective

Conditions with connectives are read as they are written
(`Predicate.read_written`).  The text is cut at the connectives outside brackets
and quotes and nowhere else, first at `or` and then at `and`, and the sides are
joined from the first on.
-/

namespace Folio.Rule

open Folio.Text

variable {p : Predicate} {s w : List Char}

/-! ## Sides -/

/-- The condition of all sides, joined from the first on. -/
def Connective.joinAll (connective : Connective) (first : Predicate) (rest : List Predicate) :
    Predicate := rest.foldl connective.join first

/-- The last side is joined last. -/
@[simp] theorem Connective.joinAll_concat (connective : Connective) (first : Predicate)
    (rest : List Predicate) (last : Predicate) :
    connective.joinAll first (rest ++ [last]) =
      connective.join (connective.joinAll first rest) last := by
  rw [joinAll, List.foldl_append]
  rfl

/-- A joined predicate is written side by side. -/
@[simp] theorem Connective.written_join (connective : Connective) (left right : Predicate) :
    (connective.join left right).written = left.written ++ (connective.mark ++ right.written) := by
  cases connective <;> rfl

/-- The sides are written with the connective between them. -/
theorem Connective.written_joinAll (connective : Connective) (first : Predicate)
    (rest : List Predicate) : (connective.joinAll first rest).written =
      connective.mark.intercalate ((first :: rest).map Predicate.written) := by
  induction rest generalizing first with
  | nil => exact (List.intercalate_singleton).symm
  | cons second rest ih =>
      have hjoin : connective.joinAll first (second :: rest) =
          connective.joinAll (connective.join first second) rest := rfl
      rw [hjoin, ih, List.map_cons, List.map_cons, List.map_cons, connective.written_join,
        List.intercalate_cons_cons]
      cases rest with
      | nil => simp
      | cons third rest => simp [List.intercalate_cons_cons]

/-! ## Cuts -/

/-- A text between `and`s: it has no blank outside brackets and quotes, and is not the
other connective. -/
structure IsSide (s : List Char) : Prop where
  balanced : Balanced (· ≠ ' ') s
  ne_nil : s ≠ []
  ne_or : s ≠ ['o', 'r']

/-- No operand is the word of a connective. -/
theorem Operand.written_ne_or {operand : Operand} (h : operand.IsCondition) :
    operand.written ≠ ['o', 'r'] := by
  cases operand with
  | «attribute» n => exact fun hor => absurd (List.cons.inj hor).1 (by decide)
  | child n => exact fun hor => h.2 (String.toList_inj.mp hor)
  | text => decide
  | self => decide

/-- No atom is that word. -/
theorem Predicate.written_ne_or (h : p.IsWritable .atom) : p.written ≠ ['o', 'r'] := by
  have hfirst {c : Char} {t : List Char} (hc : c ≠ 'o') : c :: t ≠ ['o', 'r'] :=
    fun hor => hc (List.cons.inj hor).1
  have hmem {c : Char} {t : List Char} (hc : c ∈ t) (ho : c ≠ 'o') (hr : c ≠ 'r') :
      t ≠ ['o', 'r'] := by
    rintro rfl
    simp [ho, hr] at hc
  cases h with
  | @position n _ _ =>
      obtain ⟨c, rest, hcons, hdigit⟩ := exists_toString_eq_cons n
      refine hmem (hcons ▸ List.mem_cons_self) ?_ ?_ <;> rintro rfl <;> contradiction
  | last _ => exact hfirst (c := 'l') (by decide)
  | positionIs _ _ => exact hfirst (c := 'p') (by decide)
  | has _ hcondition => exact Operand.written_ne_or hcondition
  | @equals operand value negate _ _ =>
      have hmark : '=' ∈ equalityMark negate := by cases negate <;> decide
      exact hmem (List.mem_append_right _ (List.mem_append_left _ hmark)) (by decide) (by decide)
  | contains _ _ => exact hfirst (c := 'c') (by decide)
  | startsWith _ _ => exact hfirst (c := 's') (by decide)
  | not _ => exact hfirst (c := 'n') (by decide)

/-- An atom is a side of a connective. -/
theorem Predicate.isSide_written (h : p.IsWritable .atom) : IsSide p.written :=
  ⟨balanced_written h, (hasEdges_written h).ne_nil, written_ne_or h⟩

/-- No `or` stands in front of a side. -/
theorem IsSide.not_or_prefix (h : IsSide s) (hw : ∀ c ∈ w.head?, c = ' ') :
    ¬['o', 'r', ' '].isPrefixOf (s ++ w) = true := by
  rw [List.isPrefixOf_iff_prefix]
  intro hstarts
  have hplain {c : Char} {t : List Char} (hc : isPlain true c = true)
      (h : Balanced (· ≠ ' ') (c :: t)) : c ≠ ' ' ∧ Balanced (· ≠ ' ') t := by
    cases h with
    | plain _ hp h => exact ⟨hp, h⟩
    | quoted hmark => rw [not_isPlain_of_mark hmark] at hc; contradiction
    | bracketed hpair => rw [(not_isPlain_of_isPair hpair).1] at hc; contradiction
  match s, h with
  | [], h => exact h.ne_nil rfl
  | [o], h =>
      cases w with
      | nil => exact absurd hstarts.length_le (by simp)
      | cons c w =>
          simp only [List.singleton_append, List.cons_prefix_cons] at hstarts
          exact absurd (hstarts.2.1.trans (hw c rfl)) (by decide)
  | [o, r], h =>
      simp only [List.cons_append, List.cons_prefix_cons] at hstarts
      exact h.ne_or (by rw [hstarts.1, hstarts.2.1])
  | o :: r :: blank :: rest, h =>
      simp only [List.cons_append, List.cons_prefix_cons] at hstarts
      obtain ⟨rfl, rfl, rfl, -⟩ := hstarts
      exact (hplain rfl (hplain rfl (hplain rfl h.balanced).2).2).1 rfl

/-- An `and` with no `or` behind it holds no cut at an `or`. -/
theorem splitTopLevel_and_append (h : ¬['o', 'r', ' '].isPrefixOf s = true) :
    splitTopLevel [' ', 'o', 'r', ' '] true ([' ', 'a', 'n', 'd', ' '] ++ s) =
      [' ', 'a', 'n', 'd', ' '].foldr consFirst (splitTopLevel [' ', 'o', 'r', ' '] true s) := by
  have hstep (c : Char) (t : List Char) (hc : isPlain true c = true)
      (hcut : ¬[' ', 'o', 'r', ' '].isPrefixOf (c :: t) = true) :
      splitTopLevel [' ', 'o', 'r', ' '] true (c :: t) =
        consFirst c (splitTopLevel [' ', 'o', 'r', ' '] true t) := by
    rw [splitTopLevel, splitFrom_cons fun h => hcut h.2.2, Nesting.top, step_plain hc]
    rfl
  have hblank := hstep ' ' ('a' :: 'n' :: 'd' :: ' ' :: s) rfl Bool.false_ne_true
  have ha := hstep 'a' ('n' :: 'd' :: ' ' :: s) rfl Bool.false_ne_true
  have hn := hstep 'n' ('d' :: ' ' :: s) rfl Bool.false_ne_true
  have hd := hstep 'd' (' ' :: s) rfl Bool.false_ne_true
  simp only [List.cons_append, List.nil_append, List.foldr_cons, List.foldr_nil]
  rw [hblank, ha, hn, hd, hstep ' ' s rfl h]

/-- Sides with `and` between them are not cut at an `or`. -/
theorem isWhole_intercalate_and {sides : List (List Char)} (h : ∀ s ∈ sides, IsSide s) :
    IsWhole [' ', 'o', 'r', ' '] ([' ', 'a', 'n', 'd', ' '].intercalate sides) := by
  induction sides with
  | nil => exact fun t _ => rfl
  | cons s sides ih =>
      obtain ⟨hs, hsides⟩ := List.forall_mem_cons.mp h
      cases sides with
      | nil =>
          rw [List.intercalate_singleton]
          exact hs.balanced.isWhole (not_not.mpr rfl)
      | cons next sides =>
          intro t ht
          have hnext := hsides next List.mem_cons_self
          have hor : ¬['o', 'r', ' '].isPrefixOf
              ([' ', 'a', 'n', 'd', ' '].intercalate (next :: sides) ++ t) = true := by
            cases sides with
            | nil =>
                rw [List.intercalate_singleton]
                refine hnext.not_or_prefix ?_
                rcases ht with rfl | ⟨rest, rfl⟩
                · exact fun c hc => by contradiction
                · exact fun c hc => (Option.some.inj hc).symm
            | cons third sides =>
                rw [List.intercalate_cons_cons, List.append_assoc, List.append_assoc]
                exact hnext.not_or_prefix fun c hc => (Option.some.inj hc).symm
          rw [List.intercalate_cons_cons, List.append_assoc, List.append_assoc,
            splitTopLevel_balanced_append hs.balanced (not_not.mpr rfl),
            splitTopLevel_and_append hor, ih hsides t ht, List.foldr_append, List.foldr_append]

/-! ## Reading -/

/-- The condition is read from its text, with fuel for twice its length. -/
def Predicate.ReadsBack (p : Predicate) : Prop :=
  ∀ fuel, 2 * p.written.length + 2 ≤ fuel → Predicate.readWith fuel p.written = .ok p

/-- A text without connectives. -/
theorem Predicate.readWith_side (h : IsSide s) (htrim : trim s = s) (fuel : Nat) :
    Predicate.readWith (fuel + 1) s =
      match (stripPrefix? "not(".toList s).bind (stripSuffix? [')']) with
      | some inner => (Predicate.readWith fuel inner).map .not
      | none => readAtom s := by
  have hor : IsWhole " or ".toList s := h.balanced.isWhole (not_not.mpr rfl)
  have hand : IsWhole " and ".toList s := h.balanced.isWhole (not_not.mpr rfl)
  rewrite [Predicate.readWith, htrim, hor.splitTopLevel, hand.splitTopLevel]
  rfl

/-- A condition that is no negation is read as `readAtom` does. -/
theorem Predicate.readsBack_of_readAtom (h : p.IsWritable .atom)
    (hread : readAtom p.written = .ok p)
    (hnot : stripPrefix? "not(".toList p.written = none) : p.ReadsBack := by
  intro fuel hfuel
  obtain ⟨fuel, rfl⟩ : ∃ more, fuel = more + 1 := ⟨fuel - 1, by omega⟩
  rw [readWith_side (isSide_written h) (hasEdges_written h).trim, hnot]
  exact hread

/-- A negation is read where its inside is. -/
theorem Predicate.readsBack_not (h : p.IsWritable .disjunction) (hp : p.ReadsBack) :
    (Predicate.not p).ReadsBack := by
  intro fuel hfuel
  have hwritable := IsWritable.not h
  have hinside : (stripPrefix? "not(".toList (Predicate.not p).written).bind
      (stripSuffix? [')']) = some p.written := by
    have hstrip : stripPrefix? "not(".toList (Predicate.not p).written =
        some (p.written ++ [')']) := stripPrefix?_append "not(".toList _
    rw [hstrip, Option.bind_some, stripSuffix?_append]
  have hlength : (Predicate.not p).written.length = p.written.length + 5 := by
    have hwritten : (Predicate.not p).written = "not(".toList ++ (p.written ++ [')']) := rfl
    simp [hwritten]
  obtain ⟨fuel, rfl⟩ : ∃ more, fuel = more + 1 := ⟨fuel - 1, by omega⟩
  rw [readWith_side (isSide_written hwritable) (hasEdges_written hwritable).trim, hinside]
  simp only [hp fuel (by omega)]
  rfl

/-- The sides of a connective are read back one after the other. -/
theorem foldPredicates_written (join : Predicate → Predicate → Predicate) {fuel : Nat}
    {sides : List Predicate} (h : ∀ side ∈ sides, side.ReadsBack)
    (hfuel : ∀ side ∈ sides, 2 * side.written.length + 2 + sides.length ≤ fuel)
    (left : Predicate) :
    foldPredicates fuel join left (sides.map Predicate.written) = .ok (sides.foldl join left) := by
  induction sides generalizing fuel left with
  | nil => rw [List.map_nil, foldPredicates, List.foldl_nil]
  | cons side sides ih =>
      obtain ⟨hside, hsides⟩ := List.forall_mem_cons.mp h
      obtain ⟨hfirst, hrest⟩ := List.forall_mem_cons.mp hfuel
      rw [List.length_cons] at hfirst
      obtain ⟨fuel, rfl⟩ : ∃ more, fuel = more + 1 := ⟨fuel - 1, by omega⟩
      rw [List.map_cons, foldPredicates, hside fuel (by omega), List.foldl_cons]
      refine ih hsides (fun other hother => ?_) (join left side)
      have hbound := hrest other hother
      rw [List.length_cons] at hbound
      omega

/-- A piece and a character for each of the others fit between delimiters. -/
theorem length_add_length_le_intercalate {delim : List Char} (hdelim : delim ≠ [])
    {pieces : List (List Char)} {piece : List Char} (h : piece ∈ pieces) :
    piece.length + pieces.length ≤ (delim.intercalate pieces).length + 1 := by
  have hdelim := List.length_pos_iff.mpr hdelim
  induction pieces generalizing piece with
  | nil => contradiction
  | cons s pieces ih =>
      cases pieces with
      | nil => rw [List.mem_singleton.mp h, List.intercalate_singleton, List.length_singleton]
      | cons next pieces =>
          rw [List.intercalate_cons_cons, List.length_append, List.length_append, List.length_cons]
          rcases List.mem_cons.mp h with rfl | h
          · have hnext := ih List.mem_cons_self
            omega
          · have hpiece := ih h
            omega

/-- What reading does with a text that is cut into sides. -/
theorem Connective.fold_written (connective : Connective) {first second : Predicate}
    {rest : List Predicate} (h : ∀ side ∈ first :: second :: rest, side.ReadsBack) {fuel : Nat}
    (hfuel : 2 * (connective.joinAll first (second :: rest)).written.length + 2 ≤ fuel + 1) :
    (Predicate.readWith fuel first.written >>= fun left =>
      foldPredicates fuel connective.join left ((second :: rest).map Predicate.written)) =
      .ok (connective.joinAll first (second :: rest)) := by
  have hbound {side : Predicate} (hside : side ∈ first :: second :: rest) :
      side.written.length + (rest.length + 2) ≤
        (connective.joinAll first (second :: rest)).written.length + 1 := by
    have hmark : connective.mark ≠ [] := by cases connective <;> decide
    have hle := length_add_length_le_intercalate hmark
      (List.mem_map_of_mem (f := Predicate.written) hside)
    rw [List.length_map] at hle
    rw [connective.written_joinAll]
    exact hle
  have hfirst := hbound List.mem_cons_self
  rw [h first List.mem_cons_self fuel (by omega)]
  refine foldPredicates_written connective.join
    (fun side hside => h side (List.mem_cons_of_mem first hside)) (fun side hside => ?_) first
  have hside := hbound (List.mem_cons_of_mem first hside)
  rw [List.length_cons]
  omega

/-- Atoms joined by the stronger connective can be written. -/
theorem Predicate.isWritable_joinAll_and {first : Predicate} {rest : List Predicate}
    (hfirst : first.IsWritable .conjunction) (hrest : ∀ side ∈ rest, side.IsWritable .atom) :
    (Connective.and.joinAll first rest).IsWritable .conjunction := by
  induction rest generalizing first with
  | nil => exact hfirst
  | cons side rest ih =>
      obtain ⟨hside, hrest⟩ := List.forall_mem_cons.mp hrest
      exact ih (.and hfirst hside) hrest

/-- Conjunctions joined by the weaker one can be written. -/
theorem Predicate.isWritable_joinAll_or {first : Predicate} {rest : List Predicate}
    (hfirst : first.IsWritable .disjunction) (hrest : ∀ side ∈ rest, side.IsWritable .conjunction) :
    (Connective.or.joinAll first rest).IsWritable .disjunction := by
  induction rest generalizing first with
  | nil => exact hfirst
  | cons side rest ih =>
      obtain ⟨hside, hrest⟩ := List.forall_mem_cons.mp hrest
      exact ih (.or hfirst hside) hrest

/-- A conjunction has no weaker connective outside brackets. -/
theorem isWhole_joinAll_and {first : Predicate} {rest : List Predicate}
    (h : ∀ side ∈ first :: rest, side.IsWritable .atom) :
    IsWhole " or ".toList (Connective.and.joinAll first rest).written := by
  rw [Connective.written_joinAll]
  refine isWhole_intercalate_and fun s hs => ?_
  obtain ⟨side, hside, rfl⟩ := List.mem_map.mp hs
  exact Predicate.isSide_written (h side hside)

/-- A conjunction is read where its sides are. -/
theorem Predicate.readsBack_joinAll_and {first : Predicate} {rest : List Predicate}
    (h : ∀ side ∈ first :: rest, side.IsWritable .atom ∧ side.ReadsBack) :
    (Connective.and.joinAll first rest).ReadsBack := by
  have hwritable := fun side hside => (h side hside).1
  have hreads := fun side hside => (h side hside).2
  cases rest with
  | nil => exact hreads first List.mem_cons_self
  | cons second rest =>
      intro fuel hfuel
      obtain ⟨fuel, rfl⟩ : ∃ more, fuel = more + 1 := ⟨fuel - 1, by omega⟩
      obtain ⟨hfirst, hrest⟩ := List.forall_mem_cons.mp hwritable
      have htrim := (hasEdges_written (isWritable_joinAll_and (.atom hfirst) hrest)).trim
      have hor := (isWhole_joinAll_and hwritable).splitTopLevel
      have hand : splitTopLevel " and ".toList true
          (Connective.and.joinAll first (second :: rest)).written =
          (first :: second :: rest).map Predicate.written := by
        rw [Connective.written_joinAll]
        refine splitTopLevel_intercalate_of_isWhole (d := ' ') rfl (List.cons_ne_nil _ _) ?_
        intro s hs
        obtain ⟨side, hside, rfl⟩ := List.mem_map.mp hs
        exact (isSide_written (hwritable side hside)).balanced.isWhole (not_not.mpr rfl)
      rw [Predicate.readWith, htrim, hor, hand]
      exact Connective.and.fold_written hreads hfuel

/-- A disjunction is read where its sides are. -/
theorem Predicate.readsBack_joinAll_or {first : Predicate} {rest : List Predicate}
    (h : ∀ side ∈ first :: rest, (side.IsWritable .conjunction ∧
      IsWhole " or ".toList side.written) ∧ side.ReadsBack) :
    (Connective.or.joinAll first rest).ReadsBack := by
  have hwritable := fun side hside => (h side hside).1.1
  have hreads := fun side hside => (h side hside).2
  cases rest with
  | nil => exact hreads first List.mem_cons_self
  | cons second rest =>
      intro fuel hfuel
      obtain ⟨fuel, rfl⟩ : ∃ more, fuel = more + 1 := ⟨fuel - 1, by omega⟩
      obtain ⟨hfirst, hrest⟩ := List.forall_mem_cons.mp hwritable
      have htrim := (hasEdges_written (isWritable_joinAll_or (.conjunction hfirst) hrest)).trim
      have hor : splitTopLevel " or ".toList true
          (Connective.or.joinAll first (second :: rest)).written =
          (first :: second :: rest).map Predicate.written := by
        rw [Connective.written_joinAll]
        refine splitTopLevel_intercalate_of_isWhole (d := ' ') rfl (List.cons_ne_nil _ _) ?_
        intro s hs
        obtain ⟨side, hside, rfl⟩ := List.mem_map.mp hs
        exact (h side hside).1.2
      rw [Predicate.readWith, htrim, hor]
      exact Connective.or.fold_written hreads hfuel

/-- What the induction carries: the sides of a condition are read back. -/
def Strength.SidesReadBack : Strength → Predicate → Prop
  | .atom, p => p.ReadsBack
  | .conjunction, p => ∃ first rest, p = Connective.and.joinAll first rest ∧
      ∀ side ∈ first :: rest, side.IsWritable .atom ∧ side.ReadsBack
  | .disjunction, p => ∃ first rest, p = Connective.or.joinAll first rest ∧
      ∀ side ∈ first :: rest, (side.IsWritable .conjunction ∧
        IsWhole " or ".toList side.written) ∧ side.ReadsBack

/-- What reads back side by side reads back. -/
theorem Strength.SidesReadBack.readsBack {strength : Strength} (h : strength.SidesReadBack p) :
    p.ReadsBack := by
  cases strength with
  | atom => exact h
  | conjunction =>
      obtain ⟨first, rest, rfl, hsides⟩ := h
      exact Predicate.readsBack_joinAll_and hsides
  | disjunction =>
      obtain ⟨first, rest, rfl, hsides⟩ := h
      exact Predicate.readsBack_joinAll_or hsides

/-- A conjunction is one side of a disjunction. -/
theorem Strength.SidesReadBack.isWhole (h : Strength.conjunction.SidesReadBack p) :
    IsWhole " or ".toList p.written := by
  obtain ⟨first, rest, rfl, hsides⟩ := h
  exact isWhole_joinAll_and fun side hside => (hsides side hside).1

/-- Every predicate that can be written reads back side by side, by induction on it. -/
theorem Predicate.sidesReadBack {strength : Strength} (h : p.IsWritable strength) :
    strength.SidesReadBack p := by
  induction h with
  | @position n hpos hmost =>
      refine readsBack_of_readAtom (.position hpos hmost) (readAtom_position hpos hmost) ?_
      rw [stripPrefix?_eq_none_iff]
      intro hstarts
      have hdigit : isAsciiDigit 'n' = true :=
        isAsciiDigit_of_mem_toString (hstarts.subset List.mem_cons_self)
      contradiction
  | last hmost => exact readsBack_of_readAtom (.last hmost) (readAtom_last hmost) rfl
  | positionIs hleast hmost =>
      exact readsBack_of_readAtom (.positionIs hleast hmost) (readAtom_positionIs hleast hmost) rfl
  | has h hcondition =>
      have hnot := stripPrefix?_operand ['n', 'o', 't'] [] h followsOperand_nil
        (by decide) (by decide)
      rw [List.append_nil] at hnot
      exact readsBack_of_readAtom (.has h hcondition) (readAtom_has h hcondition) hnot
  | @equals operand value negate h hvalue =>
      exact readsBack_of_readAtom (.equals h hvalue) (readAtom_equals h hvalue negate)
        (stripPrefix?_operand ['n', 'o', 't'] [] h (followsOperand_equalityMark negate _)
          (by decide) (by decide))
  | contains h hvalue =>
      exact readsBack_of_readAtom (.contains h hvalue) (readAtom_contains h hvalue) rfl
  | startsWith h hvalue =>
      exact readsBack_of_readAtom (.startsWith h hvalue) (readAtom_startsWith h hvalue) rfl
  | not h ih => exact readsBack_not h ih.readsBack
  | @atom p h ih =>
      exact ⟨p, [], rfl, fun side hside => List.mem_singleton.mp hside ▸ ⟨h, ih⟩⟩
  | @and left right _ hright ihleft ihright =>
      obtain ⟨first, rest, rfl, hsides⟩ := ihleft
      refine ⟨first, rest ++ [right], (Connective.joinAll_concat .and first rest right).symm, ?_⟩
      intro side hside
      rcases List.mem_append.mp (List.cons_append ▸ hside) with hside | hside
      · exact hsides side hside
      · exact List.mem_singleton.mp hside ▸ ⟨hright, ihright⟩
  | @conjunction p h ih =>
      exact ⟨p, [], rfl, fun side hside => List.mem_singleton.mp hside ▸
        ⟨⟨h, ih.isWhole⟩, ih.readsBack⟩⟩
  | @or left right _ hright ihleft ihright =>
      obtain ⟨first, rest, rfl, hsides⟩ := ihleft
      refine ⟨first, rest ++ [right], (Connective.joinAll_concat .or first rest right).symm, ?_⟩
      intro side hside
      rcases List.mem_append.mp (List.cons_append ▸ hside) with hside | hside
      · exact hsides side hside
      · exact List.mem_singleton.mp hside ▸ ⟨⟨hright, ihright.isWhole⟩, ihright.readsBack⟩

/-- **Conditions.**  A condition that can be written is read from its text as itself. -/
theorem Predicate.read_written {strength : Strength} (h : p.IsWritable strength) :
    Predicate.read p.written = .ok p :=
  (sidesReadBack h).readsBack _ le_rfl

end Folio.Rule
