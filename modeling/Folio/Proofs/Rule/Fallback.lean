import Folio.Proofs.Event
import Folio.Proofs.Rule.Expr
import Folio.Rule.Evaluation

/-!
# Folio.Proofs.Rule.Fallback

Falling back.  A rule with `||` between two rules gives what the first gives,
and what the second gives only when the first gives nothing; only then are
failures of the second reported (`fallback_alternatives`).

The law comes about in three places: the text is cut where it was joined
(`readAlternatives_append`), the blanks around the parts are those that reading
an alternative trims (`readAlternatives_trim`), and alternatives are evaluated
from left to right until one gives something (`firstResults_append`).
-/

namespace Folio

/-- The results of the first operation, or of the second when the first has
none.  The second takes place only then. -/
def Traced.fallback {α : Type} (first second : Traced (List α)) : Traced (List α) := do
  let results ← first
  if results.isEmpty then second else pure results

namespace Rule

open Folio.Text Folio.Script

/-! ## Reading -/

theorem forall_mem_alternativeMark {p : Char → Prop} : (∀ c ∈ alternativeMark, p c) ↔ p '|' := by
  simp [alternativeMark]

theorem isPlain_of_mem_alternativeMark : ∀ c ∈ alternativeMark, isPlain false c = true :=
  forall_mem_alternativeMark.mpr (by decide)

theorem not_mem_alternativeMark_of_isBlank {c : Char} (h : isBlank c = true) :
    c ∉ alternativeMark := by
  intro hmem
  have hbar : ∀ x ∈ alternativeMark, isBlank x = false := forall_mem_alternativeMark.mpr (by decide)
  rw [hbar c hmem] at h
  contradiction

theorem isPlain_of_isBlank {c : Char} (h : isBlank c = true) : isPlain false c = true := by
  have hne : ∀ x ∈ "[(])".toList, c ≠ x := by
    rintro x hx rfl
    have hbracket : ∀ x ∈ "[(])".toList, isBlank x = false := by simp [isBlank]
    rw [hbracket c hx] at h
    contradiction
  simpa [isPlain, and_assoc] using hne

theorem read_congr {raw other : List Char} (h : trim raw = trim other) :
    Alternative.read raw = Alternative.read other := by
  rw [Alternative.read, Alternative.read, h]

theorem splitAffix_of_not_isInfix {raw : List Char} (h : ¬affixMark <:+: raw) :
    splitAffix raw = (raw, none) := by
  rw [splitAffix, cut?_eq_none_iff.mpr h]

/-- Blanks in front of a rule belong to its first alternative. -/
theorem splitTopLevel_cons_of_isBlank {c : Char} (h : isBlank c = true) (rule : List Char) :
    splitTopLevel alternativeMark false (c :: rule) =
      consFirst c (splitTopLevel alternativeMark false rule) := by
  have hcut : ¬alternativeMark.isPrefixOf (c :: rule) = true := by
    rw [List.isPrefixOf_iff_prefix, alternativeMark, List.cons_prefix_cons]
    rintro ⟨rfl, -⟩
    exact not_mem_alternativeMark_of_isBlank h (by decide)
  rw [splitTopLevel, splitFrom_cons fun hfound => hcut hfound.2.2,
    step_of_isPlain (isPlain_of_isBlank h)]
  rfl

/-- There they are trimmed. -/
theorem readAlternatives_cons {c : Char} (h : isBlank c = true) (rule : List Char) :
    readAlternatives (c :: rule) = readAlternatives rule := by
  have hne : splitTopLevel alternativeMark false rule ≠ [] := splitFrom_ne_nil .top 0 rule
  obtain ⟨piece, rest, hpieces⟩ := List.exists_cons_of_ne_nil hne
  simp [readAlternatives, splitTopLevel_cons_of_isBlank h, hpieces, consFirst,
    read_congr (trim_cons_of_isBlank h piece)]

/-- Blanks behind a rule belong to its last alternative, and are trimmed
there. -/
theorem readAlternatives_append_of_isBlank {rest : List Char} (h : ∀ c ∈ rest, isBlank c = true)
    (rule : List Char) : readAlternatives (rule ++ rest) = readAlternatives rule := by
  have hrest : ∀ c ∈ rest, c ∉ alternativeMark :=
    fun c hc => not_mem_alternativeMark_of_isBlank (h c hc)
  obtain ⟨pieces, last, hrule, happend⟩ : ∃ pieces last,
      splitFrom alternativeMark false .top 0 rule = pieces ++ [last] ∧
        splitFrom alternativeMark false .top 0 (rule ++ rest) = pieces ++ [last ++ rest] :=
    splitFrom_append_right (by decide) hrest (Nat.zero_le rule.length)
  simp [readAlternatives, splitTopLevel, hrule, happend, read_congr (trim_append_of_isBlank h last)]

/-- The blanks around a rule change none of its alternatives. -/
theorem readAlternatives_trim (rule : List Char) :
    readAlternatives (trim rule) = readAlternatives rule := by
  obtain ⟨lead, rest, hlead, hrest, hrule⟩ := exists_eq_append_trim rule
  have hfront (lead : List Char) (hlead : ∀ c ∈ lead, isBlank c = true) (s : List Char) :
      readAlternatives (lead ++ s) = readAlternatives s := by
    induction lead with
    | nil => rfl
    | cons c lead ih =>
        obtain ⟨hc, hlead⟩ := List.forall_mem_cons.mp hlead
        rw [List.cons_append, readAlternatives_cons hc, ih hlead]
  conv_rhs => rw [hrule, hfront lead hlead, readAlternatives_append_of_isBlank hrest]

/-- A text that does not end with a bar ends apart from the mark. -/
theorem endsApart_of_getLast? {s : List Char} (h : s.getLast? ≠ some '|') :
    EndsApart alternativeMark s :=
  endsApart_of_getLast?_ne (forall_mem_alternativeMark.mpr rfl) h

/-- Joined rules are cut where they were joined. -/
theorem splitTopLevel_joined {first : List Char} (hclosed : IsClosed first)
    (hbar : first.getLast? ≠ some '|') (second : List Char) :
    splitTopLevel alternativeMark false (first ++ (alternativeMark ++ second)) =
      splitTopLevel alternativeMark false first ++
        splitTopLevel alternativeMark false second := by
  have hnesting : nestingAfter alternativeMark false .top 0 first = .top :=
    (nestingAfter_eq_top_iff isPlain_of_mem_alternativeMark).mpr hclosed
  exact splitTopLevel_append (by decide) hnesting (endsApart_of_getLast? hbar) second

/-- Joined rules have the alternatives of both. -/
theorem readAlternatives_append {first : List Char} (hclosed : IsClosed first)
    (hbar : first.getLast? ≠ some '|') (second : List Char) :
    readAlternatives (first ++ (alternativeMark ++ second)) =
      readAlternatives first ++ readAlternatives second := by
  rw [readAlternatives, splitTopLevel_joined hclosed hbar, List.map_append]
  rfl

/-! ## Evaluation -/

/-- Alternatives are evaluated from left to right until one gives something. -/
theorem firstResults_append {α : Type} (evaluate : Alternative → Except Failure (List α))
    (first second : List Alternative) :
    firstResults evaluate (first ++ second) =
      (firstResults evaluate first).fallback (firstResults evaluate second) := by
  induction first with
  | nil => rfl
  | cons a first ih =>
      rw [List.cons_append, firstResults, firstResults, ih]
      cases evaluate a with
      | error failure => exact (Traced.bind_assoc _ _ _).symm
      | ok results =>
          cases results with
          | nil => rfl
          | cons result results => rfl

/-- What the first alternative that has results gives. -/
theorem value_firstResults {α : Type} (evaluate : Alternative → Except Failure (List α))
    (list : List Alternative) :
    (firstResults evaluate list).value =
      ((list.map fun a => (evaluate a).toOption.getD []).find? (!·.isEmpty)).getD [] := by
  induction list with
  | nil => rfl
  | cons a rest ih =>
      rw [firstResults, List.map_cons]
      cases evaluate a with
      | error failure => exact ih
      | ok results =>
          cases results with
          | nil => exact ih
          | cons result results => rfl

/-- A result is one of the first alternative that has any. -/
theorem mem_value_firstResults_iff {α : Type} {evaluate : Alternative → Except Failure (List α)}
    {list : List Alternative} {x : α} :
    x ∈ (firstResults evaluate list).value ↔
      ∃ before a after results, list = before ++ a :: after ∧
        (firstResults evaluate before).value = [] ∧ evaluate a = .ok results ∧ x ∈ results := by
  constructor
  · intro h
    rw [value_firstResults] at h
    cases hfound : (list.map fun a => (evaluate a).toOption.getD []).find? (!·.isEmpty) with
    | none =>
        rw [hfound] at h
        cases h
    | some results =>
        rw [hfound] at h
        obtain ⟨-, front, back, hsplit, hfront⟩ := List.find?_eq_some_iff_append.mp hfound
        obtain ⟨before, rest, rfl, rfl, hrest⟩ := List.map_eq_append_iff.mp hsplit
        obtain ⟨a, after, rfl, ha, -⟩ := List.map_eq_cons_iff.mp hrest
        refine ⟨before, a, after, results, rfl, ?_, ?_, h⟩
        · rw [value_firstResults, List.find?_eq_none.mpr (by simpa using hfront)]
          rfl
        · cases hevaluate : evaluate a with
          | error failure =>
              rw [hevaluate] at ha
              subst ha
              cases h
          | ok values =>
              rw [hevaluate] at ha
              rw [← ha]
              rfl
  · rintro ⟨before, a, after, results, rfl, hbefore, ha, hx⟩
    obtain ⟨result, results, rfl⟩ := List.exists_cons_of_ne_nil (List.ne_nil_of_mem hx)
    have hfirst : (firstResults evaluate (a :: after)).value = result :: results := by
      rw [firstResults, ha]
      rfl
    rw [firstResults_append, Traced.fallback, Traced.value_bind, hbefore]
    exact hfirst ▸ hx

/-! ## Rules as they are written -/

/-- A rule that holds no script is read as its alternatives. -/
theorem read_of_none {rule : String} (h : Envelope.find? true rule.toList = none) :
    Expr.read rule = .alternatives (readAlternatives rule.toList) := by
  rw [Expr.read, readChars_of_none (Envelope.find?_eq_none_of_isInfix h (trim_isInfix _)),
    readAlternatives_trim]

theorem toList_joined (first second : String) :
    (first ++ "||" ++ second).toList = first.toList ++ (alternativeMark ++ second.toList) := by
  rw [String.toList_append, String.toList_append, List.append_assoc]
  rfl

/-- Rules that are joined are read as they are read alone. -/
theorem read_joined {first second : String} (hclosed : IsClosed first.toList)
    (hbar : first.toList.getLast? ≠ some '|')
    (hscript : Envelope.find? true (first ++ "||" ++ second).toList = none) :
    Expr.read (first ++ "||" ++ second) =
        .alternatives (readAlternatives first.toList ++ readAlternatives second.toList) ∧
      Expr.read first = .alternatives (readAlternatives first.toList) ∧
      Expr.read second = .alternatives (readAlternatives second.toList) := by
  have hjoined := toList_joined first second
  refine ⟨?_, read_of_none ?_, read_of_none ?_⟩
  · rw [read_of_none hscript, hjoined, readAlternatives_append hclosed hbar]
  · refine Envelope.find?_eq_none_of_isInfix hscript ?_
    rw [hjoined]
    exact (List.prefix_append _ _).isInfix
  · refine Envelope.find?_eq_none_of_isInfix hscript ?_
    rw [hjoined, ← List.append_assoc]
    exact (List.suffix_append _ _).isInfix

/-- The texts of joined rules. -/
theorem texts_joined (e : Evaluator) (base : String) (s : Subject) {first second : String}
    (hclosed : IsClosed first.toList) (hbar : first.toList.getLast? ≠ some '|')
    (hscript : Envelope.find? true (first ++ "||" ++ second).toList = none) :
    texts e base s (first ++ "||" ++ second) =
      (texts e base s first).fallback (texts e base s second) := by
  obtain ⟨hread, hreadFirst, hreadSecond⟩ := read_joined hclosed hbar hscript
  rw [texts, texts, texts, hread, hreadFirst, hreadSecond]
  simp only [Expr.texts]
  exact firstResults_append _ _ _

/-- **Falling back.**  Let two rules be joined by `||`, where the first leaves no
bracket open and does not end with a bar, and no script stands in the joined
rule.  Then it extracts the texts, and selects the subjects, of the first rule,
and those of the second when there are none; what is reported is what the first
rule reports, followed by what the second reports when it is needed. -/
theorem fallback_alternatives (e : Evaluator) (base : String) (s : Subject)
    {first second : String} (hfirst : isBlankText first = false)
    (hsecond : isBlankText second = false) (hclosed : IsClosed first.toList)
    (hbar : first.toList.getLast? ≠ some '|')
    (hscript : Envelope.find? true (first ++ "||" ++ second).toList = none) :
    texts e base s (first ++ "||" ++ second) =
        (texts e base s first).fallback (texts e base s second) ∧
      elements e base s (first ++ "||" ++ second) =
        (elements e base s first).fallback (elements e base s second) := by
  obtain ⟨hread, hreadFirst, hreadSecond⟩ := read_joined hclosed hbar hscript
  have hblank : isBlankText (first ++ "||" ++ second) = false := by
    rw [isBlankText, toList_joined, List.all_append, Bool.and_eq_false_iff]
    exact Or.inl hfirst
  constructor
  · exact texts_joined e base s hclosed hbar hscript
  · simp [elements, hblank, hfirst, hsecond, hread, hreadFirst, hreadSecond, Expr.elements,
      firstResults_append]

/-- An object with one member. -/
def titledPage : Subject := .text "\x7b\"b\":\"x\"\x7d"

/-- The path `$..` lacks a key, which is reported, and the member is found by the
second rule. -/
theorem fallback_missingKey :
    isBlankText "$.." = false ∧ isBlankText "$.b" = false ∧ IsClosed "$..".toList ∧
      "$..".toList.getLast? ≠ some '|' ∧
      Envelope.find? true ("$.." ++ "||" ++ "$.b").toList = none ∧
      (texts (fun _ _ => pure (.ok .empty)) "" titledPage ("$.." ++ "||" ++ "$.b")).value = ["x"] ∧
      (texts (fun _ _ => pure (.ok .empty)) "" titledPage ("$.." ++ "||" ++ "$.b")).events =
        [.ruleFailed (.json (.missingKey "$..")) "$.."] := by
  have hclosed : IsClosed "$..".toList := by decide
  have hbar : "$..".toList.getLast? ≠ some '|' := by decide
  have hscript : Envelope.find? true ("$.." ++ "||" ++ "$.b").toList = none := by decide
  obtain ⟨htexts, -⟩ := fallback_alternatives (fun _ _ => pure (.ok .empty)) "" titledPage
    (by decide) (by decide) hclosed hbar hscript
  refine ⟨by decide, by decide, hclosed, hbar, hscript, ?_, ?_⟩
  · rw [htexts]
    decide +kernel
  · rw [htexts]
    decide +kernel

end Rule

end Folio
