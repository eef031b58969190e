import Folio.Proofs.Rule.Split
import Folio.Rule.LocationPath

/-!
# Folio.Proofs.Rule.Balanced

Texts that close what they open.  In a balanced text every bracket and every
quotation mark is closed, and a condition holds of each character outside them
(`Balanced`).  A scan leaves such a text in the state in which it came to it and
cuts nowhere in it at a delimiter whose first character the condition excludes
(`splitTopLevel_balanced_append`).
-/

namespace Folio.Rule

/-- The brackets that belong together. -/
def IsPair (opening closing : Char) : Prop :=
  opening = '[' ∧ closing = ']' ∨ opening = '(' ∧ closing = ')'

/-- Every bracket and quotation mark of the text is closed in it, and the condition holds
of each character outside brackets and quotes. -/
inductive Balanced : (Char → Prop) → List Char → Prop
  | nil {p : Char → Prop} : Balanced p []
  | plain {p : Char → Prop} {c : Char} {s : List Char} (hplain : isPlain true c = true)
      (hp : p c) (h : Balanced p s) : Balanced p (c :: s)
  | quoted {p : Char → Prop} {mark : Char} {inside s : List Char}
      (hmark : mark = '\'' ∨ mark = '"') (hinside : mark ∉ inside) (h : Balanced p s) :
      Balanced p (mark :: (inside ++ mark :: s))
  | bracketed {p : Char → Prop} {opening closing : Char} {inside s : List Char}
      (hpair : IsPair opening closing) (hinside : Balanced (fun _ => True) inside)
      (h : Balanced p s) : Balanced p (opening :: (inside ++ closing :: s))

namespace Balanced

variable {p q : Char → Prop} {s t : List Char}

/-- Less may be asked of the characters outside. -/
theorem mono (h : Balanced p s) (hle : ∀ c, p c → q c) : Balanced q s := by
  induction h with
  | nil => exact .nil
  | plain hplain hp _ ih => exact .plain hplain (hle _ hp) (ih hle)
  | quoted hmark hinside _ ih => exact .quoted hmark hinside (ih hle)
  | bracketed hpair hinside _ _ ih => exact .bracketed hpair hinside (ih hle)

/-- Two balanced texts are one. -/
theorem append (hs : Balanced p s) (ht : Balanced p t) : Balanced p (s ++ t) := by
  induction hs with
  | nil => exact ht
  | plain hplain hp _ ih => exact .plain hplain hp (ih ht)
  | quoted hmark hinside _ ih =>
      rw [List.cons_append, List.append_assoc, List.cons_append]
      exact .quoted hmark hinside (ih ht)
  | bracketed hpair hinside _ _ ih =>
      rw [List.cons_append, List.append_assoc, List.cons_append]
      exact .bracketed hpair hinside (ih ht)

/-- Balanced texts in a row are one. -/
theorem flatMap {α : Type} {f : α → List Char} {items : List α}
    (h : ∀ a ∈ items, Balanced p (f a)) : Balanced p (items.flatMap f) := by
  induction items with
  | nil => exact .nil
  | cons a items ih =>
      obtain ⟨ha, hitems⟩ := List.forall_mem_cons.mp h
      exact ha.append (ih hitems)

/-- A text without brackets and quotes. -/
theorem of_forall (h : ∀ c ∈ s, isPlain true c = true ∧ p c) : Balanced p s := by
  induction s with
  | nil => exact .nil
  | cons c s ih =>
      obtain ⟨⟨hplain, hp⟩, hs⟩ := List.forall_mem_cons.mp h
      exact .plain hplain hp (ih hs)

/-- A quoted text is balanced, whatever it holds but the mark. -/
theorem quotation {mark : Char} (hmark : mark = '\'' ∨ mark = '"') (h : mark ∉ s) :
    Balanced p (mark :: (s ++ [mark])) := .quoted hmark h .nil

/-- A balanced text in brackets is balanced, and nothing of it is outside. -/
theorem bracket {opening closing : Char} (hpair : IsPair opening closing) (h : Balanced q s) :
    Balanced p (opening :: (s ++ [closing])) :=
  .bracketed hpair (h.mono fun _ _ => trivial) .nil

end Balanced

/-! ## Scans -/

section Scan

variable {depth : Nat} {mark c d : Char} {delim ds s t : List Char} {p : Char → Prop}

/-- Quotation marks open something. -/
theorem not_isPlain_of_mark (h : mark = '\'' ∨ mark = '"') : isPlain true mark = false := by
  rcases h with rfl | rfl <;> rfl

theorem step_mark (h : mark = '\'' ∨ mark = '"') :
    Nesting.step true ⟨depth, none⟩ mark = ⟨depth, some mark⟩ := by
  rcases h with rfl | rfl <;> rfl

@[simp] theorem step_same_mark :
    Nesting.step true ⟨depth, some mark⟩ mark = ⟨depth, none⟩ := if_pos rfl

theorem step_other_mark (h : c ≠ mark) :
    Nesting.step true ⟨depth, some mark⟩ c = ⟨depth, some mark⟩ := if_neg h

/-- An opening bracket goes one deeper. -/
theorem step_opening {opening closing : Char} (h : IsPair opening closing) :
    Nesting.step true ⟨depth, none⟩ opening = ⟨depth + 1, none⟩ := by
  rcases h with ⟨rfl, -⟩ | ⟨rfl, -⟩ <;> rfl

/-- A closing bracket comes back. -/
theorem step_closing {opening closing : Char} (h : IsPair opening closing) :
    Nesting.step true ⟨depth + 1, none⟩ closing = ⟨depth, none⟩ := by
  rcases h with ⟨-, rfl⟩ | ⟨-, rfl⟩ <;> rfl

theorem not_isPlain_of_isPair {opening closing : Char} (h : IsPair opening closing) :
    isPlain true opening = false ∧ isPlain true closing = false := by
  rcases h with ⟨rfl, rfl⟩ | ⟨rfl, rfl⟩ <;> exact ⟨rfl, rfl⟩

/-- A plain character changes nothing. -/
theorem step_plain (h : isPlain true c = true) :
    Nesting.step true ⟨depth, none⟩ c = ⟨depth, none⟩ := by
  simp only [isPlain, Bool.true_and, Bool.not_eq_true', Bool.or_eq_false_iff,
    beq_eq_false_iff_ne] at h
  simp [Nesting.step, h]

/-- No delimiter begins where something is opened or closed. -/
theorem splitFrom_not_plain {n : Nesting} (h : isPlain true c = false) :
    splitFrom delim true n 0 (c :: s) = consFirst c (splitFrom delim true (n.step true c) 0 s) :=
  splitFrom_cons fun hcut => by simp [h] at hcut

/-- Nothing is cut in quotes. -/
theorem splitFrom_inside_quotes {inside : List Char} (h : mark ∉ inside) :
    splitFrom delim true ⟨depth, some mark⟩ 0 (inside ++ t) =
      inside.foldr consFirst (splitFrom delim true ⟨depth, some mark⟩ 0 t) := by
  induction inside with
  | nil => rfl
  | cons c inside ih =>
      obtain ⟨hc, hinside⟩ := not_or.mp (List.mem_cons.not.mp h)
      have hcut : ¬((⟨depth, some mark⟩ : Nesting) = .top ∧ isPlain true c ∧
          delim.isPrefixOf (c :: (inside ++ t))) := fun hcut => by cases hcut.1
      simp [splitFrom_cons hcut, step_other_mark (Ne.symm hc), ih hinside]

/-- A scan goes through a balanced text without a cut and comes out as it went in. -/
theorem splitFrom_balanced (h : Balanced p s) (hd : depth = 0 → ¬p d) (t : List Char) :
    splitFrom (d :: ds) true ⟨depth, none⟩ 0 (s ++ t) =
      s.foldr consFirst (splitFrom (d :: ds) true ⟨depth, none⟩ 0 t) := by
  induction h generalizing depth t with
  | nil => rfl
  | @plain p c s hplain hp _ ih =>
      have hcut : ¬((⟨depth, none⟩ : Nesting) = .top ∧ isPlain true c ∧
          (d :: ds).isPrefixOf (c :: (s ++ t))) := by
        rintro ⟨htop, -, hstart⟩
        rw [List.isPrefixOf_iff_prefix, List.cons_prefix_cons] at hstart
        exact hd (congrArg Nesting.depth htop) (hstart.1 ▸ hp)
      simp [splitFrom_cons hcut, step_plain hplain, ih hd]
  | @quoted p mark inside s hmark hinside _ ih =>
      have hcut (n : Nesting) {more : List Char} : splitFrom (d :: ds) true n 0 (mark :: more) =
          consFirst mark (splitFrom (d :: ds) true (n.step true mark) 0 more) :=
        splitFrom_not_plain (not_isPlain_of_mark hmark)
      simp [hcut, step_mark hmark, splitFrom_inside_quotes hinside, ih hd]
  | bracketed hpair _ _ ihinside ih =>
      obtain ⟨hopening, hclosing⟩ := not_isPlain_of_isPair hpair
      simp [splitFrom_not_plain hopening, step_opening hpair,
        ihinside fun hzero => absurd hzero (Nat.succ_ne_zero depth),
        splitFrom_not_plain hclosing, step_closing hpair, ih hd]

/-- **Balanced texts.**  A text is not cut in a balanced part that has no beginning of the
delimiter outside brackets and quotes. -/
theorem splitTopLevel_balanced_append (h : Balanced p s) (hd : ¬p d) (t : List Char) :
    splitTopLevel (d :: ds) true (s ++ t) =
      s.foldr consFirst (splitTopLevel (d :: ds) true t) :=
  splitFrom_balanced h (fun _ => hd) t

@[simp] theorem foldr_consFirst_cons (s piece : List Char) (pieces : List (List Char)) :
    s.foldr consFirst (piece :: pieces) = (s ++ piece) :: pieces := by
  induction s with
  | nil => rfl
  | cons c s ih =>
      rw [List.foldr_cons, ih]
      rfl

/-- A text is one piece as far as it goes: where the rest is cut does not depend on it. -/
def IsWhole (delim s : List Char) : Prop :=
  ∀ t, t = [] ∨ (∃ rest, t = delim ++ rest) →
    splitTopLevel delim true (s ++ t) = s.foldr consFirst (splitTopLevel delim true t)

/-- A delimiter that begins with none of the characters outside does not cut the text. -/
theorem Balanced.isWhole (h : Balanced p s) (hd : ¬p d) : IsWhole (d :: ds) s :=
  fun t _ => splitTopLevel_balanced_append h hd t

/-- A text that is not cut is one piece. -/
theorem IsWhole.splitTopLevel (h : IsWhole delim s) : splitTopLevel delim true s = [s] := by
  have hempty : Rule.splitTopLevel delim true [] = [[]] := rfl
  have hwhole := h [] (Or.inl rfl)
  rwa [List.append_nil, hempty, foldr_consFirst_cons, List.append_nil] at hwhole

/-- Whole texts with the delimiter between them are what the joined text is cut into. -/
theorem splitTopLevel_intercalate_of_isWhole (hd : isPlain true d = true)
    {pieces : List (List Char)} (hne : pieces ≠ []) (h : ∀ s ∈ pieces, IsWhole (d :: ds) s) :
    splitTopLevel (d :: ds) true ((d :: ds).intercalate pieces) = pieces := by
  induction pieces with
  | nil => contradiction
  | cons s pieces ih =>
      obtain ⟨hs, hpieces⟩ := List.forall_mem_cons.mp h
      cases pieces with
      | nil =>
          rw [List.intercalate_singleton]
          exact hs.splitTopLevel
      | cons next pieces =>
          rw [List.intercalate_cons_cons, List.append_assoc, hs _ (Or.inr ⟨_, rfl⟩),
            splitTopLevel_delim_append hd, ih (List.cons_ne_nil next pieces) hpieces,
            foldr_consFirst_cons, List.append_nil]

/-- Two balanced texts around a delimiter. -/
theorem splitTopLevel_balanced_pair {q : Char → Prop} (hd : isPlain true d = true)
    (hs : Balanced p s) (hp : ¬p d) (ht : Balanced q t) (hq : ¬q d) :
    splitTopLevel (d :: ds) true (s ++ (d :: ds ++ t)) = [s, t] := by
  rw [splitTopLevel_balanced_append hs hp, splitTopLevel_delim_append hd,
    (ht.isWhole hq).splitTopLevel, foldr_consFirst_cons, List.append_nil]

end Scan

/-! ## Brackets -/

section Bracket

variable {depth : Nat} {mark c : Char} {s t : List Char} {p : Char → Prop}

/-- The inside of a bracket with a text in front. -/
def withInside (s : List Char) (found : Option (List Char × List Char)) :
    Option (List Char × List Char) :=
  found.map fun found => (s ++ found.1, found.2)

theorem withInside_append (s t : List Char) (found : Option (List Char × List Char)) :
    withInside (s ++ t) found = withInside s (withInside t found) := by
  cases found with
  | none => rfl
  | some found =>
      rw [withInside, Option.map_some, List.append_assoc]
      rfl

/-- A quotation mark opens a quoted span. -/
theorem closeBracket?_mark (h : mark = '\'' ∨ mark = '"') :
    closeBracket? depth none (mark :: t) = withInside [mark] (closeBracket? depth (some mark) t) :=
  if_pos h

/-- A quoted span is passed over up to its mark. -/
theorem closeBracket?_inside_quotes {inside : List Char} (h : mark ∉ inside) :
    closeBracket? depth (some mark) (inside ++ mark :: t) =
      withInside (inside ++ [mark]) (closeBracket? depth none t) := by
  induction inside with
  | nil =>
      rw [List.nil_append, closeBracket?]
      simp only [if_pos]
      rfl
  | cons c inside ih =>
      obtain ⟨hc, hinside⟩ := not_or.mp (List.mem_cons.not.mp h)
      rw [List.cons_append, closeBracket?]
      simp only [if_neg (Ne.symm hc)]
      rw [ih hinside]
      exact (withInside_append [c] (inside ++ [mark]) _).symm

theorem closeBracket?_other (hmark : ¬(c = '\'' ∨ c = '"')) (hopening : c ≠ '[')
    (hclosing : c ≠ ']') :
    closeBracket? depth none (c :: t) = withInside [c] (closeBracket? depth none t) := by
  rw [closeBracket?.eq_def]
  simp only [if_neg hmark, if_neg hopening, if_neg hclosing]
  rfl

/-- A bracket in brackets opens one more. -/
@[simp] theorem closeBracket?_opening :
    closeBracket? depth none ('[' :: t) = withInside ['['] (closeBracket? (depth + 1) none t) := rfl

/-- The bracket that closes an inner one closes nothing else. -/
@[simp] theorem closeBracket?_closing :
    closeBracket? (depth + 1) none (']' :: t) = withInside [']'] (closeBracket? depth none t) := rfl

/-- The end of a bracket is not looked for in a balanced text. -/
theorem closeBracket?_balanced (h : Balanced p s) (t : List Char) :
    closeBracket? depth none (s ++ t) = withInside s (closeBracket? depth none t) := by
  induction h generalizing depth t with
  | nil =>
      rw [List.nil_append]
      cases closeBracket? depth none t with
      | none => rfl
      | some found => rfl
  | @plain p c s hplain hp _ ih =>
      simp only [isPlain, Bool.true_and, Bool.not_eq_true', Bool.or_eq_false_iff,
        beq_eq_false_iff_ne] at hplain
      have hmark : ¬(c = '\'' ∨ c = '"') := not_or.mpr hplain.2
      rw [List.cons_append, closeBracket?_other hmark hplain.1.1.1.1 hplain.1.1.2, ih,
        ← withInside_append]
      rfl
  | quoted hmark hinside _ ih =>
      simp [closeBracket?_mark hmark, closeBracket?_inside_quotes hinside, ih,
        ← withInside_append]
  | @bracketed p opening closing inside s hpair _ _ ihinside ih =>
      rcases hpair with ⟨rfl, rfl⟩ | ⟨rfl, rfl⟩
      · simp [ihinside, ih, ← withInside_append]
      · have hround {c : Char} (hc : c = '(' ∨ c = ')') (more : List Char) :
            closeBracket? depth none (c :: more) = withInside [c] (closeBracket? depth none more) :=
          closeBracket?_other (by rcases hc with rfl | rfl <;> decide)
            (by rcases hc with rfl | rfl <;> decide) (by rcases hc with rfl | rfl <;> decide)
        simp [hround, ihinside, ih, ← withInside_append]

/-- **Brackets.**  A balanced text in square brackets is their inside. -/
theorem closeBracket?_of_balanced (h : Balanced p s) (after : List Char) :
    closeBracket? 0 none (s ++ ']' :: after) = some (s, after) := by
  have hclosed : closeBracket? 0 none (']' :: after) = some ([], after) := rfl
  rw [closeBracket?_balanced h, hclosed, withInside, Option.map_some]
  exact congrArg some (Prod.ext (List.append_nil s) rfl)

end Bracket

end Folio.Rule
