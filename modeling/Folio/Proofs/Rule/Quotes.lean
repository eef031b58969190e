import Folio.Proofs.Rule.Fallback

/-!
# Folio.Proofs.Rule.Quotes

Which delimiters cut a rule.  The pieces of a text are those between exactly
the delimiters that stand outside: outside brackets, and with `quotes` outside
quoted spans, in which a bracket does not count (`splitTopLevel_eq_iff`).

Alternatives and steps are cut without `quotes`.  There a bracket counts in a
quoted span as elsewhere, so that `[text()='(']` is never closed again and the
marks behind it cut nothing.  The pieces are those outside brackets and quotes
exactly when every delimiter is outside with `quotes` where it is outside
without (`cuts_outside_quotes_iff`), as it is in a rule without quotation marks
(`QuotesAgree.of_not_mem`).
-/

namespace Folio.Rule

open Folio.Text Folio.Script

variable {delim seen s : List Char} {quotes : Bool}

/-! ## Delimiters outside -/

/-- What stands behind the text is outside brackets and, with `quotes`, outside
quoted spans. -/
def IsOutside (quotes : Bool) (front : List Char) : Prop :=
  front.foldl (Nesting.step quotes) .top = .top

instance (front : List Char) : Decidable (IsOutside quotes front) :=
  inferInstanceAs (Decidable (_ = _))

/-- The pieces of a text between exactly the delimiters that stand outside, where
`seen` stands in front of the text.  A piece ends at the first of them; one
that overlaps a delimiter is none. -/
inductive ArePieces (delim : List Char) (quotes : Bool) :
    List Char → List Char → List (List Char) → Prop
  | last {seen text : List Char}
      (inside : ∀ front back, text = front ++ (delim ++ back) → ¬IsOutside quotes (seen ++ front)) :
      ArePieces delim quotes seen text [text]
  | cons {seen piece rest : List Char} {pieces : List (List Char)}
      (outside : IsOutside quotes (seen ++ piece))
      (first : ∀ front back, piece ++ (delim ++ rest) = front ++ (delim ++ back) →
        IsOutside quotes (seen ++ front) → piece.length ≤ front.length)
      (onward : ArePieces delim quotes (seen ++ (piece ++ delim)) rest pieces) :
      ArePieces delim quotes seen (piece ++ (delim ++ rest)) (piece :: pieces)

/-- A text has one list of pieces. -/
theorem ArePieces.unique {pieces others : List (List Char)}
    (h : ArePieces delim quotes seen s pieces) (hothers : ArePieces delim quotes seen s others) :
    pieces = others := by
  induction h generalizing others with
  | @last seen text inside =>
      generalize htext : text = whole at hothers
      cases hothers with
      | last inside' => rfl
      | cons outside first onward => exact absurd outside (inside _ _ htext)
  | @cons seen piece rest pieces outside first onward ih =>
      generalize htext : piece ++ (delim ++ rest) = whole at hothers
      cases hothers with
      | last inside => exact absurd outside (inside _ _ htext.symm)
      | @cons seen piece' rest' pieces' outside' first' onward' =>
          have hle := first _ _ htext outside'
          have hge := first' _ _ htext.symm outside
          obtain ⟨rfl, hrest⟩ := List.append_inj htext (Nat.le_antisymm hle hge)
          rw [List.append_cancel_left hrest] at ih
          rw [ih onward']

/-- Where no delimiter begins outside, a character belongs to the first piece. -/
theorem ArePieces.consFirst {c : Char} {pieces : List (List Char)}
    (hcut : delim <+: c :: s → ¬IsOutside quotes seen)
    (h : ArePieces delim quotes (seen ++ [c]) s pieces) :
    ArePieces delim quotes seen (c :: s) (consFirst c pieces) := by
  generalize hseen : seen ++ [c] = front at h
  cases h with
  | last inside =>
      refine .last fun front back htext => ?_
      cases front with
      | nil =>
          rw [List.append_nil]
          exact hcut ⟨back, htext.symm⟩
      | cons d front =>
          obtain ⟨rfl, hmore⟩ := List.cons.inj htext
          have hinside := inside front back hmore
          rwa [← hseen, List.append_assoc] at hinside
  | @cons _ piece rest pieces outside first onward =>
      subst hseen
      have happend (front : List Char) : seen ++ [c] ++ front = seen ++ c :: front := by simp
      refine ArePieces.cons (happend piece ▸ outside) (fun front back htext hout => ?_) ?_
      · cases front with
        | nil =>
            rw [List.append_nil] at hout
            exact absurd hout (hcut ⟨back, htext.symm⟩)
        | cons d front =>
            obtain ⟨rfl, hmore⟩ := List.cons.inj htext
            exact Nat.succ_le_succ (first front back hmore (happend front ▸ hout))
      · rw [happend] at onward
        exact onward

theorem foldl_step_plain (hplain : ∀ c ∈ delim, isPlain quotes c = true) :
    delim.foldl (Nesting.step quotes) .top = .top := by
  induction delim with
  | nil => rfl
  | cons c delim ih =>
      obtain ⟨hc, hplain⟩ := List.forall_mem_cons.mp hplain
      rw [List.foldl_cons, step_of_isPlain hc, ih hplain]

theorem arePieces_splitFrom (hdelim : delim ≠ []) (hplain : ∀ c ∈ delim, isPlain quotes c = true)
    {n : Nesting} {skip : Nat} (hseen : seen.foldl (Nesting.step quotes) .top = n) :
    ArePieces delim quotes seen (s.drop skip) (splitFrom delim quotes n skip s) := by
  induction s generalizing n skip seen with
  | nil =>
      rw [List.drop_nil]
      refine .last fun front back htext => ?_
      have hnil := (List.append_eq_nil_iff.mp htext.symm).2
      exact absurd (List.append_eq_nil_iff.mp hnil).1 hdelim
  | cons c s ih =>
      cases skip with
      | succ skip => exact ih hseen
      | zero =>
          rw [List.drop_zero, splitFrom]
          split
          · next hcut =>
            obtain ⟨rfl, -, hstart⟩ := hcut
            obtain ⟨rest, hrest⟩ := List.isPrefixOf_iff_prefix.mp hstart
            obtain ⟨d, ds, rfl⟩ := List.exists_cons_of_ne_nil hdelim
            have hdrop : s.drop ((d :: ds).length - 1) = rest := by
              obtain ⟨-, rfl⟩ := List.cons.inj hrest
              exact List.drop_left
            have hnext : (seen ++ (d :: ds)).foldl (Nesting.step quotes) .top = .top := by
              rw [List.foldl_append, hseen, foldl_step_plain hplain]
            have honward : ArePieces (d :: ds) quotes (seen ++ (d :: ds))
                (s.drop ((d :: ds).length - 1)) (splitFrom (d :: ds) quotes .top
                  ((d :: ds).length - 1) s) := ih hnext
            rw [hdrop] at honward
            rw [← hrest]
            have houtside : IsOutside quotes (seen ++ []) := by
              rw [List.append_nil]
              exact hseen
            exact ArePieces.cons houtside (fun _ _ _ _ => Nat.zero_le _) honward
          · next hcut =>
            have hnext : (seen ++ [c]).foldl (Nesting.step quotes) .top = n.step quotes c := by
              rw [List.foldl_append, hseen]
              rfl
            have honward : ArePieces delim quotes (seen ++ [c]) (s.drop 0)
                (splitFrom delim quotes (n.step quotes c) 0 s) := ih hnext
            refine honward.consFirst fun hstart hout => hcut ?_
            obtain ⟨d, ds, rfl⟩ := List.exists_cons_of_ne_nil hdelim
            obtain ⟨rfl, -⟩ := List.cons_prefix_cons.mp hstart
            exact ⟨hseen.symm.trans hout, hplain d List.mem_cons_self,
              List.isPrefixOf_iff_prefix.mpr hstart⟩

/-- **Where a text is cut.**  The pieces of a text are those between exactly the
delimiters that stand outside. -/
theorem splitTopLevel_eq_iff (hdelim : delim ≠ [])
    (hplain : ∀ c ∈ delim, isPlain quotes c = true) {pieces : List (List Char)} :
    splitTopLevel delim quotes s = pieces ↔ ArePieces delim quotes [] s pieces := by
  have hcut : ArePieces delim quotes [] (s.drop 0) (splitTopLevel delim quotes s) :=
    arePieces_splitFrom hdelim hplain rfl
  rw [List.drop_zero] at hcut
  constructor
  · rintro rfl
    exact hcut
  · exact hcut.unique

/-! ## Quotes -/

/-- Outside quoted spans the depth tells everything. -/
theorem eq_of_quote_eq_none {n : Nesting} (h : n.quote = none) : n = ⟨n.depth, none⟩ := by
  rw [← h]

/-- A delimiter of the text is outside brackets and quotes exactly when it is
outside the brackets that are counted as they stand, in quotes too. -/
def QuotesAgree (delim text : List Char) : Prop :=
  ∀ front back, text = front ++ (delim ++ back) → (IsOutside false front ↔ IsOutside true front)

theorem quotesAgree_iff {text : List Char} :
    QuotesAgree delim text ↔ ∀ n < text.length + 1, delim.isPrefixOf (text.drop n) = true →
      (IsOutside false (text.take n) ↔ IsOutside true (text.take n)) := by
  constructor
  · intro h n _ hstart
    obtain ⟨back, hback⟩ := List.isPrefixOf_iff_prefix.mp hstart
    exact h _ back (by rw [hback, List.take_append_drop])
  · rintro h front back rfl
    have hlength : front.length < (front ++ (delim ++ back)).length + 1 := by
      rw [List.length_append]
      omega
    have hstart : delim.isPrefixOf ((front ++ (delim ++ back)).drop front.length) = true := by
      rw [List.drop_left]
      exact List.isPrefixOf_iff_prefix.mpr (List.prefix_append delim back)
    have hagree := h front.length hlength hstart
    rwa [List.take_left] at hagree

instance (text : List Char) : Decidable (QuotesAgree delim text) :=
  decidable_of_iff _ quotesAgree_iff.symm

theorem foldl_step_of_not_mem_quotes {n : Nesting} (hn : n.quote = none)
    (h : ∀ c ∈ s, c ≠ '\'' ∧ c ≠ '"') :
    s.foldl (Nesting.step false) n = s.foldl (Nesting.step true) n := by
  induction s generalizing n with
  | nil => rfl
  | cons c s ih =>
      obtain ⟨⟨hsingle, hdouble⟩, hs⟩ := List.forall_mem_cons.mp h
      have hstep : n.step true c = n.step false c := by
        simp [Nesting.step, hn, hsingle, hdouble]
      simp [hstep, ih (quote_step hn c) hs]

/-- Texts without quotation marks are cut outside quotes. -/
theorem QuotesAgree.of_not_mem {text : List Char} (h : ∀ c ∈ text, c ≠ '\'' ∧ c ≠ '"') :
    QuotesAgree delim text := by
  rintro front back rfl
  have hfront : ∀ c ∈ front, c ≠ '\'' ∧ c ≠ '"' := fun c hc => h c (List.mem_append_left _ hc)
  rw [IsOutside, IsOutside, foldl_step_of_not_mem_quotes rfl hfront]

theorem isPlain_of_isPlain_true {c : Char} (h : isPlain true c = true) (quotes : Bool) :
    isPlain quotes c = true := by
  cases quotes with
  | true => exact h
  | false =>
      simp only [isPlain, Bool.true_and, Bool.not_eq_true', Bool.or_eq_false_iff] at h
      simp [isPlain, h.1.1.1.1, h.1.1.1.2, h.1.1.2, h.1.2]

theorem consFirst_inj {c : Char} {pieces others : List (List Char)} (hpieces : pieces ≠ [])
    (hothers : others ≠ []) : consFirst c pieces = consFirst c others ↔ pieces = others := by
  obtain ⟨piece, rest, rfl⟩ := List.exists_cons_of_ne_nil hpieces
  obtain ⟨other, rest', rfl⟩ := List.exists_cons_of_ne_nil hothers
  simp [consFirst]

@[simp] theorem nil_cons_ne_consFirst {c : Char} {pieces others : List (List Char)} :
    [] :: others ≠ consFirst c pieces := by
  cases pieces with
  | nil => simp [consFirst]
  | cons piece rest => simp [consFirst]

/-- Two scans that cut nothing at a character agree when they agree behind it. -/
theorem splitFrom_cons_eq_iff {n m : Nesting} {c : Char} {others : Bool}
    (hn : ¬(n = .top ∧ isPlain quotes c ∧ delim.isPrefixOf (c :: s)))
    (hm : ¬(m = .top ∧ isPlain others c ∧ delim.isPrefixOf (c :: s))) :
    splitFrom delim quotes n 0 (c :: s) = splitFrom delim others m 0 (c :: s) ↔
      splitFrom delim quotes (n.step quotes c) 0 s =
        splitFrom delim others (m.step others c) 0 s := by
  rw [splitFrom_cons hn, splitFrom_cons hm,
    consFirst_inj (splitFrom_ne_nil _ _ _) (splitFrom_ne_nil _ _ _)]

/-- A scan that is outside at a delimiter does not agree with one that is not. -/
theorem splitFrom_delim_ne {m : Nesting} {c : Char} {others : Bool} (hm : m ≠ .top)
    (hc : isPlain quotes c = true) (hstart : delim.isPrefixOf (c :: s) = true) :
    splitFrom delim quotes .top 0 (c :: s) ≠ splitFrom delim others m 0 (c :: s) := by
  rw [splitFrom_delim hc hstart, splitFrom_cons fun hcut => hm hcut.1]
  exact nil_cons_ne_consFirst

/-- A delimiter at the beginning of a text is outside there with quotes where it is
without, and then so are those further on; else it is those further on that
count. -/
theorem forall_front_cons {n m : Nesting} {c : Char} :
    (∀ front back, c :: s = front ++ (delim ++ back) →
        (front.foldl (Nesting.step false) n = .top ↔
          front.foldl (Nesting.step true) m = .top)) ↔
      (delim <+: c :: s → (n = .top ↔ m = .top)) ∧
        ∀ front back, s = front ++ (delim ++ back) →
          (front.foldl (Nesting.step false) (n.step false c) = .top ↔
            front.foldl (Nesting.step true) (m.step true c) = .top) := by
  constructor
  · intro h
    refine ⟨fun ⟨back, hback⟩ => h [] back hback.symm, fun front back hs => ?_⟩
    exact h (c :: front) back (by rw [hs, List.cons_append])
  · rintro ⟨hhere, honward⟩ front back hs
    cases front with
    | nil => exact hhere ⟨back, hs.symm⟩
    | cons d front =>
        obtain ⟨rfl, hmore⟩ := List.cons.inj hs
        exact honward front back hmore

/-- Two scans of a text cut it at the same places exactly when they are outside at
the same delimiters. -/
theorem splitFrom_eq_splitFrom_iff (hdelim : delim ≠ [])
    (hplain : ∀ c ∈ delim, isPlain true c = true) {n m : Nesting} {skip : Nat}
    (hskip : skip = 0 ∨ n = .top ∧ m = .top ∧ ∀ c ∈ s.take skip, isPlain true c = true) :
    splitFrom delim false n skip s = splitFrom delim true m skip s ↔
      ∀ front back, s = front ++ (delim ++ back) →
        (front.foldl (Nesting.step false) n = .top ↔
          front.foldl (Nesting.step true) m = .top) := by
  induction s generalizing n m skip with
  | nil =>
      refine ⟨fun _ front back hs => ?_, fun _ => rfl⟩
      have hnil := (List.append_eq_nil_iff.mp hs.symm).2
      exact absurd (List.append_eq_nil_iff.mp hnil).1 hdelim
  | cons c s ih =>
      rw [forall_front_cons]
      cases skip with
      | succ skip =>
          obtain ⟨rfl, rfl, htake⟩ := hskip.resolve_left (Nat.succ_ne_zero skip)
          obtain ⟨hc, htail⟩ := List.forall_mem_cons.mp htake
          have hfalse := step_of_isPlain (isPlain_of_isPlain_true hc false)
          rw [hfalse, step_of_isPlain hc, splitFrom, splitFrom, ih (.inr ⟨rfl, rfl, htail⟩)]
          simp
      | zero =>
          by_cases hstart : delim <+: c :: s
          · have hfound : delim.isPrefixOf (c :: s) = true := List.isPrefixOf_iff_prefix.mpr hstart
            have htake : ∀ x ∈ (c :: s).take delim.length, isPlain true x = true := by
              rwa [List.prefix_iff_eq_take.mp hstart] at hplain
            obtain ⟨d, ds, rfl⟩ := List.exists_cons_of_ne_nil hdelim
            obtain ⟨hc, htail⟩ := List.forall_mem_cons.mp htake
            have hc' := isPlain_of_isPlain_true hc false
            by_cases hn : n = .top <;> by_cases hm : m = .top
            · subst hn hm
              have hnext := ih (n := .top) (m := .top) (.inr ⟨rfl, rfl, htail⟩)
              rw [splitFrom_delim hc' hfound, splitFrom_delim hc hfound, step_of_isPlain hc,
                step_of_isPlain hc', ← hnext]
              simp
            · subst hn
              simp [splitFrom_delim_ne hm hc' hfound, hstart, hm]
            · subst hm
              simp [(splitFrom_delim_ne hn hc hfound).symm, hstart, hn]
            · rw [splitFrom_cons_eq_iff (fun hcut => hn hcut.1) (fun hcut => hm hcut.1),
                ih (.inl rfl)]
              simp [hn, hm]
          · have hfound : ¬delim.isPrefixOf (c :: s) = true :=
              fun hfound => hstart (List.isPrefixOf_iff_prefix.mp hfound)
            rw [splitFrom_cons_eq_iff (fun hcut => hfound hcut.2.2) (fun hcut => hfound hcut.2.2),
              ih (.inl rfl)]
            simp [hstart]

/-- The pieces that are cut outside brackets are those outside brackets and quotes
exactly when the quotes agree. -/
theorem arePieces_splitTopLevel_iff (hdelim : delim ≠ [])
    (hplain : ∀ c ∈ delim, isPlain true c = true) (text : List Char) :
    ArePieces delim true [] text (splitTopLevel delim false text) ↔ QuotesAgree delim text := by
  rw [← splitTopLevel_eq_iff hdelim hplain, eq_comm]
  exact splitFrom_eq_splitFrom_iff hdelim hplain (.inl rfl)

/-! ## Rules -/

/-- **Where a rule is cut.**  A rule without a script is cut into the alternatives
between exactly the marks outside brackets, and an alternative into the steps
between exactly the marks outside brackets, where a bracket counts in a quoted
span as elsewhere.  They are the alternatives and the steps between exactly
the marks outside brackets and quoted spans, where a bracket in a quoted span
does not count, exactly when the quotes agree. -/
theorem cuts_outside_quotes_iff {rule : String}
    (hscript : Envelope.find? true rule.toList = none) :
    ∃ pieces, Expr.read rule = .alternatives (pieces.map Alternative.read) ∧
      ArePieces alternativeMark false [] rule.toList pieces ∧
      (ArePieces alternativeMark true [] rule.toList pieces ↔
        QuotesAgree alternativeMark rule.toList) ∧
      ∀ a ∈ pieces.map Alternative.read,
        ∃ steps, a.steps = (steps.map trim).filter (!·.isEmpty) ∧
          ArePieces stepMark false [] a.body.toList steps ∧
          (ArePieces stepMark true [] a.body.toList steps ↔
            QuotesAgree stepMark a.body.toList) := by
  refine ⟨splitTopLevel alternativeMark false rule.toList, read_of_none hscript, ?_, ?_, ?_⟩
  · exact (splitTopLevel_eq_iff (by decide) (by decide)).mp rfl
  · exact arePieces_splitTopLevel_iff (by decide) (by decide) _
  · intro a _
    refine ⟨splitTopLevel stepMark false a.body.toList, rfl, ?_, ?_⟩
    · exact (splitTopLevel_eq_iff (by decide) (by decide)).mp rfl
    · exact arePieces_splitTopLevel_iff (by decide) (by decide) _

/-- A mark in a quoted span in brackets cuts neither way. -/
def quotedMarks : String := "//a[text()='||']||//b[@t='@x']"

theorem cuts_outside_quotes_quotedMarks :
    Envelope.find? true quotedMarks.toList = none ∧
      ∃ pieces, Expr.read quotedMarks = .alternatives (pieces.map Alternative.read) ∧
        ArePieces alternativeMark true [] quotedMarks.toList pieces := by
  have hscript : Envelope.find? true quotedMarks.toList = none := by decide
  obtain ⟨pieces, hread, -, hagree, -⟩ := cuts_outside_quotes_iff hscript
  exact ⟨hscript, pieces, hread, hagree.mpr (by decide)⟩

/-- A bracket in a quoted span, with nothing that closes it. -/
def quotedBracket : String := "//a[text()='(']||//b"

/-- The bracket in the quoted span counts, and the mark behind it does not cut. -/
theorem not_arePieces_quotedBracket :
    Envelope.find? true quotedBracket.toList = none ∧
      ArePieces alternativeMark true [] quotedBracket.toList
        ["//a[text()='(']".toList, "//b".toList] ∧
      readAlternatives quotedBracket.toList = [Alternative.read quotedBracket.toList] ∧
      ¬ArePieces alternativeMark true [] quotedBracket.toList
        (splitTopLevel alternativeMark false quotedBracket.toList) := by
  have hcut : splitTopLevel alternativeMark false quotedBracket.toList =
      [quotedBracket.toList] := by decide
  have hpieces : ArePieces alternativeMark true [] quotedBracket.toList
      ["//a[text()='(']".toList, "//b".toList] :=
    (splitTopLevel_eq_iff (by decide) (by decide)).mp (by decide)
  refine ⟨by decide, hpieces, by rw [readAlternatives, hcut, List.map_singleton], ?_⟩
  rw [hcut]
  exact fun h => absurd (congrArg List.length (hpieces.unique h)) (by decide)

end Folio.Rule
