import Folio.Proofs.Rule.AffixFallback

/-!
# Folio.Proofs.Rule.LeafSyntax

The default leaf as a change of syntax.  It is written into the text of a rule,
before the text is read: each alternative is trimmed, its affix is looked for
once more, and the alternatives are joined again.  What is read from the new
text is what was read from the old one with the leaf behind every cascade of
one step (`read_withDefaultLeaf`).

One alternative is read with the leaf in front of its affix
(`read_appendStep`).  The alternatives are cut where they were joined, since a
piece is still one with the leaf in place of the blanks in front of its affix
(`IsPiece.exchange`), and no delimiter begins at the end of a piece.
-/

namespace Folio.Rule

open Folio.Text Folio.Script

variable {raw body : List Char}

/-! ## The step -/

/-- What the default leaf puts behind an alternative. -/
def defaultStep : List Char := "@html".toList

theorem forall_mem_defaultStep {p : Char → Prop} :
    (∀ c ∈ defaultStep, p c) ↔ p '@' ∧ p 'h' ∧ p 't' ∧ p 'm' ∧ p 'l' := by
  simp [defaultStep]

/-- The default step opens and closes nothing. -/
theorem isPlain_of_mem_defaultStep : ∀ c ∈ defaultStep, isPlain false c = true :=
  forall_mem_defaultStep.mpr (by decide)

/-- No blank at the end of a body is left in front of the step. -/
theorem trim_append_defaultStep {body : List Char}
    (h : ∀ c ∈ body.getLast?, ¬isBlank c = true) :
    trim (body ++ defaultStep) = trim body ++ defaultStep := by
  have htrim : trim (body ++ (defaultStep ++ [])) = trimStart body ++ (defaultStep ++ []) :=
    trim_append_mark (by decide) (by decide) (by decide) body []
  rwa [List.append_nil, ← trim_eq_trimStart h] at htrim

/-- An alternative with the default step behind it. -/
def leafed (raw : List Char) : List Char := trim raw ++ defaultStep

/-- The default step leaves no blanks at the end. -/
@[simp] theorem trim_leafed (raw : List Char) : trim (leafed raw) = leafed raw := by
  rw [leafed, trim_append_defaultStep (not_isBlank_getLast_trim raw), trim_trim]

/-- The default step brings no affix. -/
theorem not_affixMark_infix_append {s : List Char} (h : ¬affixMark <:+: s) :
    ¬affixMark <:+: s ++ defaultStep := by
  intro hinfix
  have hsplit : Spells [affixMark] (s ++ '@' :: "html".toList) := spells_singleton_iff.mpr hinfix
  obtain ⟨first, second, hmarks, hfirst, hsecond⟩ := hsplit.split (by decide)
  rcases List.append_eq_singleton_iff.mp hmarks.symm with ⟨rfl, rfl⟩ | ⟨rfl, rfl⟩
  · exact absurd (spells_singleton_iff.mp hsecond) (by decide)
  · exact h (spells_singleton_iff.mp hfirst)

/-! ## Dialects -/

/-- A marker is no part of the default step behind it. -/
theorem stripPrefix?_append_defaultStep {marker : List Char} (hne : body ≠ [])
    (h : '@' ∉ marker.tail) :
    stripPrefix? marker (body ++ defaultStep) =
      (stripPrefix? marker body).map (· ++ defaultStep) := by
  cases marker with
  | nil => rfl
  | cons c marker =>
      have hapart : Text.Apart (c :: marker) body defaultStep := apart_cons_of_not_mem_tail h body _
      cases hstrip : stripPrefix? (c :: marker) body with
      | some rest =>
          rw [eq_append_of_stripPrefix? hstrip, List.append_assoc, stripPrefix?_append]
          rfl
      | none =>
          rw [Option.map_none, stripPrefix?_eq_none_iff]
          rw [stripPrefix?_eq_none_iff] at hstrip
          exact fun hstart => hstrip (hapart.isPrefix_of_append hne hstart)

/-- The step behind a body changes neither its dialect nor its marker. -/
theorem classify_append_defaultStep (hne : body ≠ []) :
    classify (body ++ defaultStep) =
      ((classify body).1, (classify body).2.1, (classify body).2.2 ++ defaultStep) := by
  have hstarts (pat : List Char) (h : '@' ∉ pat.tail) :
      startsWith pat (body ++ defaultStep) = startsWith pat body := by
    simp [startsWith, stripPrefix?_append_defaultStep hne h]
  unfold classify
  rw [stripPrefix?_append_defaultStep hne (by decide),
    stripPrefix?_append_defaultStep hne (by decide),
    stripPrefix?_append_defaultStep hne (by decide), hstarts ['/'] (by decide),
    hstarts ['.', '/'] (by decide), hstarts ['$', '.'] (by decide), hstarts ['$', '['] (by decide)]
  cases stripPrefix? "@css:".toList body with
  | some rest => rfl
  | none =>
      cases stripPrefix? "@xpath:".toList body with
      | some rest => rfl
      | none =>
          cases stripPrefix? "@json:".toList body with
          | some rest => rfl
          | none =>
              dsimp only [Option.map_none]
              split
              · rfl
              · split <;> rfl

/-- A body without its marker is the end of it. -/
theorem classify_isSuffix (body : List Char) : (classify body).2.2 <:+ body := by
  have hstrip {marker rest : List Char} (h : stripPrefix? marker body = some rest) :
      rest <:+ body := ⟨marker, (eq_append_of_stripPrefix? h).symm⟩
  unfold classify
  split
  · next rest h => exact hstrip h
  · split
    · next rest h => exact hstrip h
    · split
      · next rest h => exact hstrip h
      · split
        · exact List.suffix_rfl
        · split <;> exact List.suffix_rfl

/-! ## Affixes -/

/-- A text in front of an affix, or of nothing. -/
theorem splitAffix_append {tail : List Char} (hlacks : ¬affixMark <:+: body)
    (hapart : Text.Apart affixMark body tail) (htail : tail = [] ∨ affixMark <+: tail) :
    splitAffix (body ++ tail) = (body, (splitAffix tail).2) := by
  rcases htail with rfl | ⟨pattern, rfl⟩
  · rw [List.append_nil, splitAffix_of_not_isInfix hlacks]
    rfl
  · simp [splitAffix, cut?_append_pattern hlacks hapart]

/-- The parts of an alternative without the blanks around it: a body, and what begins
with the affix, if there is one. -/
structure HasParts (raw body tail : List Char) : Prop where
  text : trim raw = body ++ tail
  affix : splitAffix (trim raw) = (body, (splitAffix tail).2)
  noAffix : ¬affixMark <:+: body
  begins : tail = [] ∨ affixMark <+: tail

/-- Every alternative has a body and a tail. -/
theorem exists_hasParts (raw : List Char) : ∃ body tail, HasParts raw body tail := by
  cases hcut : cut? affixMark (trim raw) with
  | none =>
      have hlacks := cut?_eq_none_iff.mp hcut
      exact ⟨trim raw, [], (List.append_nil _).symm, splitAffix_of_not_isInfix hlacks, hlacks,
        Or.inl rfl⟩
  | some parts =>
      obtain ⟨body, pattern⟩ := parts
      refine ⟨body, affixMark ++ pattern, eq_append_of_cut? hcut, ?_,
        not_isInfix_of_cut? (by decide) hcut, Or.inr (List.prefix_append _ _)⟩
      simp [splitAffix, hcut]

namespace HasParts

variable {tail : List Char} (h : HasParts raw body tail)
include h

theorem trim_eq : trim body = trimEnd body := by
  refine trim_eq_trimEnd fun c hc => not_isBlank_head_trim raw c ?_
  rw [h.text, List.head?_append, hc]
  rfl

/-- The step is put in front of the affix. -/
theorem appendStep_eq : appendStep "html".toList raw = leafed body ++ tail := by
  have haffix := h.affix
  rw [appendStep, leafed]
  cases hcut : cut? affixMark (trim raw) with
  | none =>
      rw [splitAffix, hcut] at haffix
      obtain rfl : trim raw = body := congrArg Prod.fst haffix
      have htail : tail = [] := List.self_eq_append_right.mp h.text
      rw [trim_trim, htail, List.append_nil]
      rfl
  | some parts =>
      rw [splitAffix, hcut] at haffix
      obtain rfl : parts.1 = body := congrArg Prod.fst haffix
      simp only [← h.trim_eq]
      rw [h.text, List.drop_left, List.append_assoc]
      rfl

/-- Behind the default step a tail leaves no blanks either. -/
theorem trim_leafed_append : trim (leafed body ++ tail) = leafed body ++ tail := by
  refine trim_eq_self ?_ ?_
  · intro c hc
    refine not_isBlank_head_trim (leafed body) c ?_
    rw [trim_leafed]
    rwa [List.head?_append_of_ne_nil _ (by simp [leafed, defaultStep])] at hc
  · intro c hc
    by_cases htail : tail = []
    · rw [htail, List.append_nil, ← trim_leafed] at hc
      exact not_isBlank_getLast_trim _ c hc
    · refine not_isBlank_getLast_trim raw c ?_
      rw [List.getLast?_append_of_ne_nil _ htail] at hc
      rwa [h.text, List.getLast?_append_of_ne_nil _ htail]

/-- With the step in front of the affix the parts are the same, but for the step. -/
theorem withStep : HasParts (appendStep "html".toList raw) (leafed body) tail := by
  have hlacks : ¬affixMark <:+: leafed body :=
    not_affixMark_infix_append fun hmark => h.noAffix (hmark.trans (trim_isInfix body))
  have hends : EndsApart affixMark (leafed body) := by
    refine endsApart_of_getLast?_ne (c := '#') (by decide) ?_
    rw [leafed, List.getLast?_append_of_ne_nil _ (by decide)]
    decide
  have htext : trim (appendStep "html".toList raw) = leafed body ++ tail := by
    rw [h.appendStep_eq, h.trim_leafed_append]
  refine ⟨htext, ?_, hlacks, h.begins⟩
  rw [htext, splitAffix_append hlacks (hends.apart tail) h.begins]

/-- The step stands in place of the blanks in front of the affix. -/
theorem exists_gap : ∃ gap, (∀ c ∈ gap, isPlain false c = true) ∧
    trim raw = trim body ++ (gap ++ tail) ∧
    appendStep "html".toList raw = trim body ++ (defaultStep ++ tail) := by
  obtain ⟨gap, hgap, hbody⟩ := exists_eq_append_trimEnd body
  rw [← h.trim_eq] at hbody
  refine ⟨gap, fun c hc => isPlain_of_isBlank (hgap c hc), ?_, ?_⟩
  · rw [h.text, ← List.append_assoc, ← hbody]
  · rw [h.appendStep_eq, leafed, List.append_assoc]

/-- An alternative is read from its parts. -/
theorem read_eq : Alternative.read raw =
    ⟨(classify (trim body)).1, (classify (trim body)).2.1,
      String.ofList (trim (classify (trim body)).2.2), (splitAffix tail).2⟩ := by
  simp only [Alternative.read, h.affix]

end HasParts

/-- **The default leaf behind one alternative.**  It is read as the end of the body. -/
theorem read_appendStep (hne : (Alternative.read raw).body ≠ "") :
    Alternative.read (appendStep "html".toList raw) =
      { Alternative.read raw with body := (Alternative.read raw).body ++ "@html" } := by
  obtain ⟨body, tail, h⟩ := exists_hasParts raw
  have hbody : trim body ≠ [] := by
    intro hnil
    rw [h.read_eq, hnil] at hne
    exact hne rfl
  have hlast : ∀ c ∈ (classify (trim body)).2.2.getLast?, ¬isBlank c = true := by
    intro c hc
    obtain ⟨marker, hmarker⟩ := classify_isSuffix (trim body)
    apply not_isBlank_getLast_trim body
    rw [← hmarker, List.getLast?_append, hc]
    rfl
  rw [h.read_eq, h.withStep.read_eq, trim_leafed, leafed, classify_append_defaultStep hbody]
  simp only [trim_append_defaultStep hlast, String.ofList_append]
  rfl

/-! ## Cascades -/

/-- Where no bracket is open, the step is the last of the cascade. -/
theorem cascade_append_defaultStep (h : IsClosed body) :
    cascade (body ++ defaultStep) = cascade body ++ ["html".toList] := by
  have hapart : EndsApart stepMark body := by
    rintro part hne - hpart
    exact hpart.eq_of_length_le (List.length_pos_iff.mpr hne)
  have hcut : splitTopLevel stepMark false (body ++ (stepMark ++ "html".toList)) =
      splitTopLevel stepMark false body ++ splitTopLevel stepMark false "html".toList :=
    splitTopLevel_append (by decide) ((nestingAfter_eq_top_iff (by decide)).mpr h) hapart _
  have hstep : cascade (body ++ defaultStep) = cascade (body ++ (stepMark ++ "html".toList)) := rfl
  rw [hstep, cascade, cascade, hcut, List.map_append, List.filter_append]
  rfl

/-! ## Pieces -/

theorem isPiece_cons {c : Char} (h : isBlank c = true) {piece : List Char} :
    IsPiece alternativeMark false (c :: piece) ↔ IsPiece alternativeMark false piece := by
  obtain ⟨first, rest, hpieces⟩ := List.exists_cons_of_ne_nil
    (l := splitTopLevel alternativeMark false piece) (splitFrom_ne_nil .top 0 piece)
  rw [IsPiece, IsPiece, splitTopLevel_cons_of_isBlank h, hpieces, consFirst]
  simp

/-- Blanks in front do not make or unmake a piece. -/
theorem isPiece_append_left_iff {lead : List Char} (h : ∀ c ∈ lead, isBlank c = true)
    (piece : List Char) :
    IsPiece alternativeMark false (lead ++ piece) ↔ IsPiece alternativeMark false piece := by
  induction lead with
  | nil => rfl
  | cons c lead ih =>
      obtain ⟨hc, hlead⟩ := List.forall_mem_cons.mp h
      rw [List.cons_append, isPiece_cons hc, ih hlead]

/-- An alternative without the blanks around it. -/
theorem isPiece_trim {piece : List Char} (h : IsPiece alternativeMark false piece) :
    IsPiece alternativeMark false (trim piece) := by
  obtain ⟨lead, rest, hlead, hrest, hpiece⟩ := exists_eq_append_trim piece
  have hmark : ∀ c ∈ rest, c ∉ alternativeMark :=
    fun c hc => not_mem_alternativeMark_of_isBlank (hrest c hc)
  rwa [hpiece, isPiece_append_left_iff hlead, isPiece_append_iff (by decide) hmark] at h

/-- Trimming leaves nothing open. -/
theorem isClosed_trim {piece : List Char} (h : IsClosed piece) : IsClosed (trim piece) := by
  obtain ⟨lead, rest, hlead, hrest, hpiece⟩ := exists_eq_append_trim piece
  rwa [hpiece, isClosed_append_left_iff fun c hc => isPlain_of_isBlank (hlead c hc),
    isClosed_append_iff fun c hc => isPlain_of_isBlank (hrest c hc)] at h

section Exchange

variable {delim front gap mid back : List Char}

/-- Plain characters in the middle leave nothing open. -/
theorem isClosed_append_middle_iff (h : ∀ c ∈ mid, isPlain false c = true) :
    IsClosed (front ++ (mid ++ back)) ↔ IsClosed (front ++ back) := by
  rw [IsClosed, IsClosed, List.foldl_append, List.foldl_append, List.foldl_append,
    foldl_step_of_isPlain (quote_foldl_step rfl front) h]

/-- A piece is still one with a text that has nothing of the delimiter in place of
another, where neither has brackets. -/
theorem IsPiece.exchange (hplain : ∀ c ∈ delim, isPlain false c = true) (hdelim : delim ≠ [])
    (hgap : ∀ c ∈ gap, isPlain false c = true) (hmid : ∀ c ∈ mid, isPlain false c = true)
    (hne : mid ≠ []) (hlacks : ∀ c ∈ mid, c ∉ delim)
    (h : IsPiece delim false (front ++ (gap ++ back))) :
    IsPiece delim false (front ++ (mid ++ back)) := by
  have hpiece : ArePieces delim false [] (front ++ (gap ++ back)) [front ++ (gap ++ back)] :=
    (splitTopLevel_eq_iff hdelim hplain).mp h
  refine (splitTopLevel_eq_iff hdelim hplain).mpr (.last fun before after hsplit hout => ?_)
  obtain ⟨c, mid, rfl⟩ := List.exists_cons_of_ne_nil hne
  obtain ⟨hc, hmore⟩ := List.forall_mem_cons.mp hlacks
  rcases split_at_of_not_mem hc hsplit with ⟨rest, rfl, -⟩ | ⟨rest, rfl, hrest⟩
  · have hfront : before ++ (delim ++ rest) ++ (gap ++ back) =
        before ++ (delim ++ (rest ++ (gap ++ back))) := by simp
    exact hpiece.not_isOutside hfront hout
  · obtain ⟨rest, rfl, rfl⟩ := exists_eq_append_of_not_mem hdelim hmore hrest
    have hback : front ++ (gap ++ (rest ++ (delim ++ after))) =
        front ++ (gap ++ rest) ++ (delim ++ after) := by simp
    refine hpiece.not_isOutside hback ?_
    have hclosed : IsClosed (front ++ (c :: mid ++ rest)) := hout
    rw [isClosed_append_middle_iff hmid, ← isClosed_append_middle_iff hgap] at hclosed
    exact hclosed

end Exchange

/-- The text of an alternative with the default leaf, where it takes one. -/
def leafText (raw : List Char) : List Char :=
  if (Alternative.read raw).isSingleStep then appendStep "html".toList raw else trim raw

/-- An alternative with its default step is still one piece. -/
theorem isPiece_leafText (h : IsPiece alternativeMark false raw) :
    IsPiece alternativeMark false (leafText raw) := by
  rw [leafText]
  split
  · obtain ⟨body, tail, hparts⟩ := exists_hasParts raw
    obtain ⟨gap, hgap, htrim, hstep⟩ := hparts.exists_gap
    have hpiece := isPiece_trim h
    rw [htrim] at hpiece
    rw [hstep]
    exact hpiece.exchange isPlain_of_mem_alternativeMark (by decide) hgap
      isPlain_of_mem_defaultStep (by decide) (forall_mem_defaultStep.mpr (by decide))
  · exact isPiece_trim h

/-- The default step leaves nothing open. -/
theorem isClosed_leafText (h : IsClosed raw) : IsClosed (leafText raw) := by
  rw [leafText]
  split
  · obtain ⟨body, tail, hparts⟩ := exists_hasParts raw
    obtain ⟨gap, hgap, htrim, hstep⟩ := hparts.exists_gap
    have hclosed := isClosed_trim h
    rw [htrim, isClosed_append_middle_iff hgap] at hclosed
    rw [hstep, isClosed_append_middle_iff isPlain_of_mem_defaultStep]
    exact hclosed
  · exact isClosed_trim h

theorem getLast?_leafText_ne (h : (trim raw).getLast? ≠ some '|') :
    (leafText raw).getLast? ≠ some '|' := by
  rw [leafText]
  split
  · obtain ⟨body, tail, hparts⟩ := exists_hasParts raw
    rw [hparts.appendStep_eq]
    by_cases htail : tail = []
    · rw [htail, List.append_nil, leafed, List.getLast?_append_of_ne_nil _ (by decide)]
      decide
    · rw [hparts.text, List.getLast?_append_of_ne_nil _ htail] at h
      rwa [List.getLast?_append_of_ne_nil _ htail]
  · exact h

/-- **Cutting a rule with the default leaf.**  It is cut into the alternatives that were
joined. -/
theorem splitTopLevel_leafText {rule : List Char}
    (h : ∀ raw ∈ splitTopLevel alternativeMark false rule, (leafText raw).getLast? ≠ some '|') :
    splitTopLevel alternativeMark false (alternativeMark.intercalate
        ((splitTopLevel alternativeMark false rule).map leafText)) =
      (splitTopLevel alternativeMark false rule).map leafText := by
  have hclosed (piece : List Char) : nestingAfter alternativeMark false .top 0 piece = .top ↔
      IsClosed piece := nestingAfter_eq_top_iff isPlain_of_mem_alternativeMark
  refine splitTopLevel_intercalate (by decide) ((pieces_splitTopLevel rule).map ?_ ?_) ?_
  · exact fun raw _ hpiece => isPiece_leafText hpiece
  · exact fun raw _ hend => (hclosed _).mpr (isClosed_leafText ((hclosed raw).mp hend))
  · intro piece hpiece
    obtain ⟨raw, hraw, rfl⟩ := List.mem_map.mp (List.dropLast_subset _ hpiece)
    exact endsApart_of_getLast? (h raw hraw)

/-! ## Rules -/

/-- The alternative with the default leaf behind its body, if it is a cascade of one
step. -/
def Alternative.withLeaf (a : Alternative) : Alternative :=
  if a.isSingleStep then { a with body := a.body ++ "@html" } else a

theorem Alternative.body_ne_empty_of_isSingleStep {a : Alternative} (h : a.isSingleStep = true) :
    a.body ≠ "" := by
  intro hempty
  have hsteps : a.steps = [] := by
    rw [Alternative.steps, hempty]
    rfl
  simp [Alternative.isSingleStep, hsteps] at h

/-- The text with the default step is read as the alternative with that step. -/
theorem read_leafText (raw : List Char) :
    Alternative.read (leafText raw) = (Alternative.read raw).withLeaf := by
  rw [leafText, Alternative.withLeaf]
  split
  · next hsingle => exact read_appendStep (Alternative.body_ne_empty_of_isSingleStep hsingle)
  · exact read_congr (trim_trim raw)

/-- The leaf is a step of its own wherever it stands outside brackets. -/
theorem Alternative.steps_withLeaf {a : Alternative} (h : IsClosed a.body.toList) :
    a.withLeaf.steps = if a.isSingleStep then a.steps ++ ["html".toList] else a.steps := by
  rw [Alternative.withLeaf]
  split
  · rw [Alternative.steps, String.toList_append]
    exact cascade_append_defaultStep h
  · rfl

section Rule

variable {rule : String} (hscript : Envelope.find? true rule.toList = none)
include hscript

/-- The default leaf leaves a rule without a script. -/
theorem noScript_withDefaultLeaf :
    Envelope.find? true (withDefaultLeaf rule "html").toList = none := by
  rw [← Option.not_isSome_iff_eq_none]
  intro hsome
  rw [withDefaultLeaf_eq_of_isSome hsome, hscript] at hsome
  contradiction

/-- The alternatives of a rule with the default leaf are those of the rule, each with the
leaf where it takes one. -/
theorem readAlternatives_withDefaultLeaf
    (h : ∀ raw ∈ splitTopLevel alternativeMark false (trim rule.toList),
      (leafText raw).getLast? ≠ some '|') :
    readAlternatives (withDefaultLeaf rule "html").toList =
      (readAlternatives rule.toList).map Alternative.withLeaf := by
  have hleaf : (withDefaultLeaf rule "html").toList = alternativeMark.intercalate
      ((splitTopLevel alternativeMark false (trim rule.toList)).map leafText) := by
    rw [withDefaultLeaf, hscript, if_neg (by simp), String.toList_ofList]
    rfl
  rw [hleaf, ← readAlternatives_trim rule.toList, readAlternatives, splitTopLevel_leafText h,
    readAlternatives, List.map_map, List.map_map]
  exact List.map_congr_left fun raw _ => read_leafText raw

end Rule

/-- **The default leaf changes the syntax as it says.**  Let a rule have no script, and no
alternative that ends with a bar.  The rule with the default leaf has the same
alternatives in the same order, each with its dialect, its marker and its affix,
and with the leaf behind the body where it is a cascade of one step.  Where the
brackets of a body are closed, the leaf is one more step, and the last. -/
theorem read_withDefaultLeaf {rule : String} (hscript : Envelope.find? true rule.toList = none)
    (hbar : ∀ raw ∈ splitTopLevel alternativeMark false (trim rule.toList),
      (trim raw).getLast? ≠ some '|') :
    ∃ list, Expr.read rule = .alternatives list ∧
      Expr.read (withDefaultLeaf rule "html") = .alternatives (list.map Alternative.withLeaf) ∧
      ∀ a ∈ list, IsClosed a.body.toList →
        a.withLeaf.steps = if a.isSingleStep then a.steps ++ ["html".toList] else a.steps := by
  refine ⟨readAlternatives rule.toList, read_of_none hscript, ?_, fun a _ h => a.steps_withLeaf h⟩
  rw [read_of_none (noScript_withDefaultLeaf hscript), readAlternatives_withDefaultLeaf hscript]
  exact fun raw hraw => getLast?_leafText_ne (hbar raw hraw)

/-- A rule with a marker, affixes, an empty alternative and marks inside brackets. -/
def mixedRule : String :=
  " @css: h1 ##[0-9]+##- || a[title='||'] @href || || $.title || |b||/h1/text()##(a||b"

/-- The first alternative and the last but one have one step, and are given the leaf. -/
theorem read_withDefaultLeaf_mixedRule :
    Envelope.find? true mixedRule.toList = none ∧
      (∀ raw ∈ splitTopLevel alternativeMark false (trim mixedRule.toList),
        (trim raw).getLast? ≠ some '|') ∧
      Expr.read (withDefaultLeaf mixedRule "html") = .alternatives
        [⟨.structural, true, "h1@html", some ⟨"[0-9]+", "-"⟩⟩,
          ⟨.structural, false, "a[title='||'] @href", none⟩, ⟨.structural, false, "", none⟩,
          ⟨.json, false, "$.title", none⟩, ⟨.structural, false, "|b@html", none⟩,
          ⟨.path, false, "/h1/text()", some ⟨"(a||b", ""⟩⟩] := by
  have hscript : Envelope.find? true mixedRule.toList = none := by decide +kernel
  have hbar : ∀ raw ∈ splitTopLevel alternativeMark false (trim mixedRule.toList),
      (trim raw).getLast? ≠ some '|' := by decide +kernel
  obtain ⟨list, hread, hleaf, -⟩ := read_withDefaultLeaf hscript hbar
  refine ⟨hscript, hbar, ?_⟩
  rw [read_of_none hscript] at hread
  obtain rfl := Expr.alternatives.inj hread
  rw [hleaf]
  exact congrArg Expr.alternatives (by decide +kernel)

end Folio.Rule
