import Folio.Proofs.Rule.Quotes

/-!
# Folio.Proofs.Rule.AffixFallback

Falling back from a rule with an affix.  The brackets of a rule are counted
before its affix is known, and those of the pattern count as they stand, also
where the pattern escapes them or has them in a class.

Where the pattern leaves no bracket open, the fallback is cut off, and is
evaluated when the rewritten texts are empty.  Where it leaves one open the
mark behind it does not cut, and a fallback without a closing bracket belongs
to the pattern: then there is nothing to fall back on (`fallback_affixed`).
-/

namespace Folio.Rule

open Folio.Text Folio.Script

/-! ## Open brackets -/

section Pieces

variable {delim seen s front rest : List Char} {quotes : Bool}

/-- What stands in front of a piece that is not the first is outside. -/
theorem ArePieces.isOutside {pieces others : List (List Char)}
    (h : ArePieces delim quotes seen s (pieces ++ others)) (hpieces : pieces ≠ [])
    (hothers : others ≠ []) : IsOutside quotes (seen ++ delim.intercalate pieces) := by
  induction pieces generalizing seen s with
  | nil => contradiction
  | cons piece pieces ih =>
      rw [List.cons_append] at h
      generalize hmore : pieces ++ others = more at h
      cases h with
      | last inside => exact absurd (List.append_eq_nil_iff.mp hmore).2 hothers
      | cons outside first onward =>
          cases pieces with
          | nil => rwa [List.intercalate_singleton]
          | cons next pieces =>
              rw [← hmore] at onward
              have hnext := ih onward (List.cons_ne_nil next pieces)
              rwa [List.append_assoc, ← List.intercalate_cons_cons] at hnext

/-- In a text of one piece every delimiter is inside. -/
theorem ArePieces.not_isOutside (h : ArePieces delim quotes seen s [s]) {before after : List Char}
    (hs : s = before ++ (delim ++ after)) : ¬IsOutside quotes (seen ++ before) := by
  generalize hpieces : [s] = pieces at h
  cases h with
  | last inside => exact inside before after hs
  | cons outside first onward =>
      obtain ⟨-, rfl⟩ := List.cons.inj hpieces
      cases onward

theorem depth_pos_of_open {n : Nesting} (hquote : n.quote = none) (hdepth : n.depth ≠ 0)
    (h : ∀ c ∈ s, c ≠ ']' ∧ c ≠ ')') : (s.foldl (Nesting.step false) n).depth ≠ 0 := by
  induction s generalizing n with
  | nil => exact hdepth
  | cons c s ih =>
      obtain ⟨⟨hsquare, hround⟩, hs⟩ := List.forall_mem_cons.mp h
      refine ih (quote_step hquote c) ?_ hs
      simp only [Nesting.step, hquote, Bool.false_and]
      split
      · contradiction
      · split
        · exact Nat.succ_ne_zero _
        · simpa [hsquare, hround] using hdepth

/-- A bracket that is open stays open where none is closed. -/
theorem not_isClosed_append (hfront : ¬IsClosed front) (hrest : ∀ c ∈ rest, c ≠ ']' ∧ c ≠ ')') :
    ¬IsClosed (front ++ rest) := by
  have hquote : (front.foldl (Nesting.step false) .top).quote = none := quote_foldl_step rfl front
  have hdepth : (front.foldl (Nesting.step false) .top).depth ≠ 0 := by
    intro hzero
    refine hfront ((eq_of_quote_eq_none hquote).trans ?_)
    rw [hzero]
    rfl
  intro hclosed
  rw [IsClosed, List.foldl_append] at hclosed
  exact depth_pos_of_open hquote hdepth hrest (by rw [hclosed]; rfl)

/-- What stands behind an open bracket is not cut off where nothing closes it. -/
theorem ArePieces.append_open (hplain : ∀ c ∈ delim, isPlain false c = true)
    (hfront : ArePieces delim false [] front [front]) (hopen : ¬IsClosed front)
    (hrest : ∀ c ∈ rest, c ≠ ']' ∧ c ≠ ')') :
    ArePieces delim false [] (front ++ rest) [front ++ rest] := by
  refine .last fun before after hsplit hout => ?_
  rw [List.nil_append] at hout
  rcases List.append_eq_append_iff.mp hsplit with ⟨more, rfl, hmore⟩ | ⟨more, hcut, hmore⟩
  · refine not_isClosed_append hopen (fun c hc => hrest c ?_) hout
    rw [hmore]
    exact List.mem_append_left _ hc
  · have hclosed (h : ∀ c ∈ more, isPlain false c = true) : IsClosed front := by
      rw [hcut, isClosed_append_iff h]
      exact hout
    rcases List.append_eq_append_iff.mp hmore with ⟨tail, rfl, -⟩ | ⟨tail, rfl, -⟩
    · exact hfront.not_isOutside hcut hout
    · exact hopen (hclosed fun c hc => hplain c (List.mem_append_left tail hc))

end Pieces

/-! ## Rules with an affix -/

/-- A rule with an affix behind it. -/
def affixed (rule pattern : String) : String := rule ++ "##" ++ pattern

@[simp] theorem toList_affixed (rule pattern : String) :
    (affixed rule pattern).toList = rule.toList ++ (affixMark ++ pattern.toList) := by
  rw [affixed, String.toList_append, String.toList_append, List.append_assoc]
  rfl

/-- The mark of an affix opens and closes no bracket. -/
theorem isClosed_affixed_iff {rule pattern : String} (h : IsClosed rule.toList) :
    IsClosed (affixed rule pattern).toList ↔ IsClosed pattern.toList := by
  rw [toList_affixed, IsClosed, List.foldl_append, h]
  exact isClosed_append_left_iff (by decide) _

/-- A rule of one alternative, to which an affix can be added. -/
structure TakesAffix (rule : List Char) : Prop where
  single : IsPiece alternativeMark false rule
  noAffix : ¬affixMark <:+: rule
  apart : EndsApart affixMark rule

/-- An affix behind a rule of one alternative changes neither its dialect nor its
body. -/
theorem read_append_affix {rule : List Char} (h : TakesAffix rule) (pattern : List Char) :
    ∃ affix, Alternative.read (rule ++ (affixMark ++ pattern)) =
      { Alternative.read rule with affix := affix } := by
  have hstart : trimStart rule <:+ rule := List.dropWhile_suffix isBlank
  have hcut : cut? affixMark (trimStart rule ++ (affixMark ++ trimEnd pattern)) =
      some (trimStart rule, trimEnd pattern) := by
    refine cut?_append_pattern (fun hmark => h.noAffix (hmark.trans hstart.isInfix)) ?_
    exact (h.apart.apart _).of_isSuffix hstart
  have halone : ¬affixMark <:+: trim rule := fun hmark => h.noAffix (hmark.trans (trim_isInfix _))
  refine ⟨(splitAffix (trimStart rule ++ (affixMark ++ trimEnd pattern))).2, ?_⟩
  have htrim : trim (rule ++ (affixMark ++ pattern)) =
      trimStart rule ++ (affixMark ++ trimEnd pattern) :=
    trim_append_mark (by decide) (by decide) (by decide) rule pattern
  have hbody : (splitAffix (trimStart rule ++ (affixMark ++ trimEnd pattern))).1 =
      trimStart rule := by rw [splitAffix, hcut]
  simp only [Alternative.read, htrim, hbody, splitAffix_of_not_isInfix halone, trim_trim,
    trim_trimStart]

/-- The alternative is a cascade that finds nothing in the subject. -/
structure Alternative.FindsNothing (base : String) (x : Subject) (a : Alternative) : Prop where
  structural : a.dialectFor x = .structural
  empty : cascadeTexts x a.steps base .text = .ok []

/-- An affix adds nothing to what a cascade finds. -/
theorem Alternative.FindsNothing.texts_withAffix {base : String} {x : Subject} {a : Alternative}
    (h : a.FindsNothing base x) (affix : Option Affix) :
    Alternative.texts x base .text { a with affix := affix } = .ok [] := by
  have hdialect : Alternative.dialectFor { a with affix := affix } x = .structural := h.structural
  have hfound : cascadeTexts x (Alternative.steps { a with affix := affix }) base .text = .ok [] :=
    h.empty
  rw [Alternative.texts, hdialect]
  simp only [hfound]
  cases affix with
  | none => rfl
  | some affix => rfl

theorem getLast?_affixed_ne (rule : String) {pattern : String} (h : '|' ∉ pattern.toList) :
    (affixed rule pattern).toList.getLast? ≠ some '|' := by
  intro hlast
  rw [toList_affixed, List.getLast?_append_of_ne_nil _ (by simp [affixMark])] at hlast
  have hmem := List.mem_of_getLast? hlast
  rw [List.mem_append] at hmem
  exact hmem.elim (by decide) h

/-- A fallback without a closing bracket behind a pattern that leaves one open
belongs to the pattern. -/
theorem readAlternatives_affixed_open {rule pattern : String} (htakes : TakesAffix rule.toList)
    (hrule : IsClosed rule.toList) (hbar : '|' ∉ pattern.toList)
    (hopen : ¬IsClosed pattern.toList) {second : String}
    (hsecond : ∀ c ∈ second.toList, c ≠ ']' ∧ c ≠ ')') :
    ∃ affix, readAlternatives (affixed rule pattern ++ "||" ++ second).toList =
      [{ Alternative.read rule.toList with affix := affix }] := by
  have hpiece : IsPiece alternativeMark false (affixed rule pattern).toList := by
    rw [toList_affixed, isPiece_append_iff (by decide)]
    · exact htakes.single
    · intro c hc hmem
      rw [forall_mem_alternativeMark (p := (· = '|')) |>.mpr rfl c hmem] at hc
      exact (List.mem_append.mp hc).elim (by decide) hbar
  have hwhole : splitTopLevel alternativeMark false
      ((affixed rule pattern).toList ++ (alternativeMark ++ second.toList)) =
        [(affixed rule pattern).toList ++ (alternativeMark ++ second.toList)] := by
    rw [splitTopLevel_eq_iff (by decide) (by decide)]
    refine ArePieces.append_open (by decide)
      ((splitTopLevel_eq_iff (by decide) (by decide)).mp hpiece)
      (fun hclosed => hopen ((isClosed_affixed_iff hrule).mp hclosed)) fun c hc => ?_
    rcases List.mem_append.mp hc with hmark | hc
    · exact forall_mem_alternativeMark (p := fun c => c ≠ ']' ∧ c ≠ ')') |>.mpr (by decide) c hmark
    · exact hsecond c hc
  rw [readAlternatives, toList_joined, hwhole, toList_affixed, List.append_assoc, List.append_assoc,
    List.map_singleton]
  obtain ⟨affix, hread⟩ := read_append_affix htakes
    (pattern.toList ++ (alternativeMark ++ second.toList))
  exact ⟨affix, by rw [hread]⟩

/-- **Falling back from an affix.**  Let a rule that leaves no bracket open have an
affix without a bar, and a fallback behind it, with no script in the whole.
The fallback is cut off exactly when the pattern leaves no bracket open, where
a bracket that is escaped or in a class counts as others do.  In that case it
gives the texts wherever the rule with the affix has none.  In the other case
a fallback that closes no bracket belongs to the pattern, and where the cascade
finds nothing there are no texts at all. -/
theorem fallback_affixed (e : Evaluator) (base : String) (x : Subject)
    {rule pattern second : String} (hrule : IsClosed rule.toList) (hbar : '|' ∉ pattern.toList)
    (hscript : Envelope.find? true (affixed rule pattern ++ "||" ++ second).toList = none) :
    (splitTopLevel alternativeMark false (affixed rule pattern ++ "||" ++ second).toList =
        splitTopLevel alternativeMark false (affixed rule pattern).toList ++
          splitTopLevel alternativeMark false second.toList ↔ IsClosed pattern.toList) ∧
      (IsClosed pattern.toList → texts e base x (affixed rule pattern ++ "||" ++ second) =
        (texts e base x (affixed rule pattern)).fallback (texts e base x second)) ∧
      (¬IsClosed pattern.toList → TakesAffix rule.toList →
        (Alternative.read rule.toList).FindsNothing base x →
        (∀ c ∈ second.toList, c ≠ ']' ∧ c ≠ ')') →
        (texts e base x (affixed rule pattern ++ "||" ++ second)).value = []) := by
  have hlast := getLast?_affixed_ne rule hbar
  have hclosed : IsClosed (affixed rule pattern).toList ↔ IsClosed pattern.toList :=
    isClosed_affixed_iff hrule
  refine ⟨⟨fun hcut => ?_, fun hpattern => ?_⟩, fun hpattern => ?_,
    fun hopen htakes hnothing hsecond => ?_⟩
  · have hpieces : ArePieces alternativeMark false []
        (affixed rule pattern ++ "||" ++ second).toList _ :=
      (splitTopLevel_eq_iff (by decide) (by decide)).mp hcut
    have houtside := hpieces.isOutside (splitFrom_ne_nil _ _ _) (splitFrom_ne_nil _ _ _)
    rw [List.nil_append, intercalate_splitTopLevel (by decide)] at houtside
    exact hclosed.mp houtside
  · rw [toList_joined]
    exact splitTopLevel_joined (hclosed.mpr hpattern) hlast _
  · exact texts_joined e base x (hclosed.mpr hpattern) hlast hscript
  · obtain ⟨affix, hread⟩ := readAlternatives_affixed_open htakes hrule hbar hopen hsecond
    rw [texts, read_of_none hscript, hread, Expr.texts, firstResults,
      hnothing.texts_withAffix affix]
    rfl

/-- A page with a bold word. -/
def boldPage : Subject := .text "<b>x</b>"

/-- The brackets of the pattern `[0-9]+` are closed, and the fallback finds the word. -/
theorem fallback_affixed_digits :
    IsClosed "i@text".toList ∧ '|' ∉ "[0-9]+".toList ∧
      Envelope.find? true (affixed "i@text" "[0-9]+" ++ "||" ++ "b@text").toList = none ∧
      (texts (fun _ _ => pure (.ok .empty)) "" boldPage
        (affixed "i@text" "[0-9]+" ++ "||" ++ "b@text")).value = ["x"] := by
  have hrule : IsClosed "i@text".toList := by decide
  have hbar : '|' ∉ "[0-9]+".toList := by decide
  have hscript :
      Envelope.find? true (affixed "i@text" "[0-9]+" ++ "||" ++ "b@text").toList = none := by decide
  obtain ⟨-, hfallback, -⟩ := fallback_affixed (fun _ _ => pure (.ok .empty)) "" boldPage
    hrule hbar hscript
  refine ⟨hrule, hbar, hscript, ?_⟩
  rw [hfallback (by decide)]
  decide +kernel

/-- The pattern `\(` leaves a bracket open, as brackets are counted.  Nothing is
rewritten, and the word is not found. -/
theorem not_fallback_escapedBracket :
    Envelope.find? true (affixed "i@text" "\\(" ++ "||" ++ "b@text").toList = none ∧
      (Regex.program? "\\(").isSome = true ∧
      (texts (fun _ _ => pure (.ok .empty)) "" boldPage (affixed "i@text" "\\(")).value = [] ∧
      (texts (fun _ _ => pure (.ok .empty)) "" boldPage "b@text").value = ["x"] ∧
      (texts (fun _ _ => pure (.ok .empty)) "" boldPage
        (affixed "i@text" "\\(" ++ "||" ++ "b@text")).value = [] := by
  exact ⟨by decide, by decide +kernel, by decide +kernel, by decide +kernel, by decide +kernel⟩

end Folio.Rule
