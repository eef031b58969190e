import Folio.Proofs.Rule.Quotes

/-!
# Folio.Proofs.Rule.Cut

The laws of cutting, for any delimiter that begins with neither a bracket nor a
quotation mark (`splitTopLevel_laws`).  The pieces joined give the text, each
cut stands outside brackets and quotes, no piece is cut further, and joined
texts are cut into the pieces of the one and of the other.

A delimiter may hold brackets behind its first character.  The scan skips them
with the delimiter, so that its nesting is that behind the pieces alone
(`nestingAfter_eq_foldl_flatten`).  The text in front of a cut is cut into the
pieces in front of it (`splitFrom_left`), which carries the nesting there over
to a scan of its own.
-/

namespace Folio.Rule

variable {delim : List Char} {quotes : Bool}

@[simp] theorem flatten_consFirst (c : Char) (pieces : List (List Char)) :
    (consFirst c pieces).flatten = c :: pieces.flatten := by
  cases pieces with
  | nil => rfl
  | cons piece rest => rfl

/-- The scan counts the brackets and the quotes of the pieces, not those of the
delimiters between them. -/
theorem nestingAfter_eq_foldl_flatten (n : Nesting) (skip : Nat) (s : List Char) :
    nestingAfter delim quotes n skip s =
      (splitFrom delim quotes n skip s).flatten.foldl (Nesting.step quotes) n := by
  induction s generalizing n skip with
  | nil => rfl
  | cons c s ih =>
      cases skip with
      | succ skip => exact ih n skip
      | zero =>
          rw [nestingAfter, splitFrom]
          split
          · rw [ih, List.flatten_cons, List.nil_append]
          · rw [ih, flatten_consFirst, List.foldl_cons]

/-- What stands behind a text that is one piece is nested as behind the piece. -/
theorem nestingAfter_of_uncut {n : Nesting} {piece : List Char}
    (h : splitFrom delim quotes n 0 piece = [piece]) :
    nestingAfter delim quotes n 0 piece = piece.foldl (Nesting.step quotes) n := by
  rw [nestingAfter_eq_foldl_flatten, h, List.flatten_singleton]

theorem Pieces.isPiece {pieces : List (List Char)} (h : Pieces delim quotes .top pieces) :
    ∀ piece ∈ pieces, IsPiece delim quotes piece := by
  generalize hn : Nesting.top = n at h
  induction h with
  | last uncut =>
      subst hn
      exact List.forall_mem_singleton.mpr uncut
  | cons uncut closed onward ih =>
      subst hn
      exact List.forall_mem_cons.mpr ⟨uncut, ih rfl⟩

/-- Nothing is open behind the pieces in front of a cut. -/
theorem Pieces.foldl_flatten {n : Nesting} {left right : List (List Char)}
    (h : Pieces delim quotes n (left ++ right)) (hleft : left ≠ []) (hright : right ≠ []) :
    left.flatten.foldl (Nesting.step quotes) n = .top := by
  induction left generalizing n with
  | nil => contradiction
  | cons piece left ih =>
      rw [List.cons_append] at h
      rw [List.flatten_cons, List.foldl_append]
      generalize hrest : left ++ right = rest at h
      cases h with
      | last uncut => exact absurd (List.append_eq_nil_iff.mp hrest).2 hright
      | cons uncut closed onward =>
          rw [← nestingAfter_of_uncut uncut, closed]
          rw [← hrest] at onward
          by_cases hmore : left = []
          · rw [hmore]
            rfl
          · exact ih onward hmore

/-! ## The text in front of a cut -/

theorem intercalate_isPrefix_of_splitFrom (hdelim : delim ≠ []) {n : Nesting} {s : List Char}
    {left right : List (List Char)} (h : splitFrom delim quotes n 0 s = left ++ right)
    (hleft : left ≠ []) (hright : right ≠ []) : delim.intercalate left <+: s := by
  have hjoined : delim.intercalate (splitFrom delim quotes n 0 s) = s.drop 0 :=
    intercalate_splitFrom hdelim n 0 s
  rw [h, Text.intercalate_append hleft hright, List.drop_zero] at hjoined
  exact ⟨_, hjoined⟩

/-- The text in front of a cut is cut into the pieces in front of it: whether a delimiter
cuts does not depend on what stands behind the cut. -/
theorem splitFrom_left (hdelim : delim ≠ []) {n : Nesting} {skip : Nat} {s : List Char}
    {left right : List (List Char)} (h : splitFrom delim quotes n skip s = left ++ right)
    (hleft : left ≠ []) (hright : right ≠ []) :
    splitFrom delim quotes n 0 (delim.intercalate left) = left := by
  induction s generalizing n skip left with
  | nil =>
      have hone := congrArg List.length h
      have hleft' := List.length_pos_iff.mpr hleft
      have hright' := List.length_pos_iff.mpr hright
      rw [splitFrom, List.length_append, List.length_singleton] at hone
      omega
  | cons c s ih =>
      cases skip with
      | succ skip => exact ih h hleft
      | zero =>
          obtain ⟨first, left, rfl⟩ := List.exists_cons_of_ne_nil hleft
          by_cases hcut : n = .top ∧ isPlain quotes c = true ∧ delim.isPrefixOf (c :: s) = true
          · obtain ⟨rfl, hc, hstart⟩ := hcut
            rw [splitFrom_delim hc hstart] at h
            obtain ⟨rfl, hrest⟩ := List.cons.inj h
            by_cases hmore : left = []
            · rw [hmore]
              rfl
            · obtain ⟨d, ds, rfl⟩ := List.exists_cons_of_ne_nil hdelim
              obtain ⟨rfl, -⟩ :=
                List.cons_prefix_cons.mp (List.isPrefixOf_iff_prefix.mp hstart)
              have hfront (t : List Char) : splitFrom (d :: ds) quotes .top 0 (d :: ds ++ t) =
                  [] :: splitFrom (d :: ds) quotes .top 0 t := splitTopLevel_delim_append hc t
              rw [List.intercalate_cons_of_ne_nil hmore, List.nil_append, hfront, ih hrest hmore]
          · have hwhole := intercalate_isPrefix_of_splitFrom hdelim h hleft hright
            rw [splitFrom_cons hcut] at h
            obtain ⟨piece, rest, hpieces⟩ : ∃ piece rest,
                splitFrom delim quotes (n.step quotes c) 0 s = piece :: rest :=
              List.exists_cons_of_ne_nil (splitFrom_ne_nil _ _ _)
            rw [hpieces] at h
            obtain ⟨rfl, rfl⟩ := List.cons.inj h
            have hfront := intercalate_consFirst delim c (piece :: left)
            rw [consFirst] at hfront
            rw [hfront, splitFrom_cons, ih hpieces (List.cons_ne_nil piece left)]
            · rfl
            -- A delimiter that begins the front begins the whole text.
            · rintro ⟨htop, hc, hstart⟩
              rw [List.isPrefixOf_iff_prefix, ← hfront] at hstart
              exact hcut ⟨htop, hc, List.isPrefixOf_iff_prefix.mpr (hstart.trans hwhole)⟩

/-- The text ends with no beginning of the delimiter but the empty one and the whole. -/
theorem endsApart_iff {s : List Char} :
    EndsApart delim s ↔ ∀ n < delim.length, n ≠ 0 → ¬delim.take n <:+ s := by
  constructor
  · intro h n hn hpos hsuffix
    have hne : delim.take n ≠ [] := by
      rw [← List.length_pos_iff, List.length_take]
      omega
    have hwhole := congrArg List.length (h _ hne hsuffix (List.take_prefix n delim))
    rw [List.length_take] at hwhole
    omega
  · intro h part hne hsuffix hstart
    by_contra hproper
    have hlength : part.length < delim.length :=
      lt_of_le_of_ne hstart.length_le fun heq => hproper (hstart.eq_of_length heq)
    rw [List.prefix_iff_eq_take.mp hstart] at hsuffix
    exact h part.length hlength (mt List.length_eq_zero_iff.mp hne) hsuffix

instance (s : List Char) : Decidable (EndsApart delim s) :=
  decidable_of_iff _ endsApart_iff.symm

/-! ## Outside -/

/-- A text stands outside brackets and quotes where it is cut: for the scan, which skips the
delimiters that it has found, as for the pieces in front of the cut and, where the
delimiter has neither brackets nor quotes, for all that stands there. -/
structure CutsOutside (delim : List Char) (quotes : Bool) (left : List (List Char)) : Prop where
  scan : nestingAfter delim quotes .top 0 (delim.intercalate left) = .top
  pieces : IsOutside quotes left.flatten
  text : (∀ c ∈ delim, isPlain quotes c = true) → IsOutside quotes (delim.intercalate left)

theorem cutsOutside_of_splitTopLevel (hdelim : delim ≠ []) {s : List Char}
    {left right : List (List Char)} (h : splitTopLevel delim quotes s = left ++ right)
    (hleft : left ≠ []) (hright : right ≠ []) : CutsOutside delim quotes left := by
  have hpieces : IsOutside quotes left.flatten := by
    have hcut : Pieces delim quotes .top (splitTopLevel delim quotes s) := pieces_splitTopLevel s
    rw [h] at hcut
    exact hcut.foldl_flatten hleft hright
  have hscan : nestingAfter delim quotes .top 0 (delim.intercalate left) = .top := by
    rw [nestingAfter_eq_foldl_flatten, splitFrom_left hdelim h hleft hright]
    exact hpieces
  refine ⟨hscan, hpieces, fun hplain => ?_⟩
  rw [IsOutside, ← nestingAfter_eq_foldl hplain (.inl rfl)]
  exact hscan

/-- **The laws of cutting.**  Whatever the text, its pieces joined by the delimiter are the
text, each cut stands outside brackets and, with `quotes`, outside quoted spans, and
no piece is cut further.  Where the scan of a text ends outside and its end is no
beginning of the delimiter, the text, a delimiter and another text are cut into
the pieces of the one and those of the other. -/
theorem splitTopLevel_laws {d : Char} (hd : isPlain true d = true) (ds : List Char)
    (quotes : Bool) (s : List Char) :
    (d :: ds).intercalate (splitTopLevel (d :: ds) quotes s) = s ∧
      (∀ left right, splitTopLevel (d :: ds) quotes s = left ++ right → left ≠ [] →
        right ≠ [] → CutsOutside (d :: ds) quotes left) ∧
      (∀ piece ∈ splitTopLevel (d :: ds) quotes s,
        splitTopLevel (d :: ds) quotes piece = [piece]) ∧
      (nestingAfter (d :: ds) quotes .top 0 s = .top → EndsApart (d :: ds) s → ∀ t,
        splitTopLevel (d :: ds) quotes (s ++ (d :: ds ++ t)) =
          splitTopLevel (d :: ds) quotes s ++ splitTopLevel (d :: ds) quotes t) := by
  have hdelim : d :: ds ≠ [] := List.cons_ne_nil d ds
  refine ⟨intercalate_splitTopLevel hdelim quotes s, ?_, (pieces_splitTopLevel s).isPiece, ?_⟩
  · exact fun left right h => cutsOutside_of_splitTopLevel hdelim h
  · exact splitTopLevel_append (isPlain_of_isPlain_true hd quotes)

/-- A delimiter in brackets, one outside, and one in a quoted span at the end. -/
def boundedOr : String := "not(a or b) or c=' or '"

theorem splitTopLevel_laws_boundedOr :
    isPlain true ' ' = true ∧ nestingAfter " or ".toList true .top 0 boundedOr.toList = .top ∧
      EndsApart " or ".toList boundedOr.toList ∧
      splitTopLevel " or ".toList true (boundedOr.toList ++ " or d or e".toList) =
        ["not(a or b)".toList, "c=' or '".toList, "d".toList, "e".toList] := by
  have hd : isPlain true ' ' = true := by decide
  have hclosed : nestingAfter " or ".toList true .top 0 boundedOr.toList = .top := by decide
  have hapart : EndsApart " or ".toList boundedOr.toList := by decide
  refine ⟨hd, hclosed, hapart, ?_⟩
  have happend := (splitTopLevel_laws hd "or ".toList true boundedOr.toList).2.2.2 hclosed hapart
    "d or e".toList
  exact happend.trans (by decide)

end Folio.Rule
