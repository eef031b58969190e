import Folio.Proofs.Text.Replace
import Folio.Script.Envelope

/-!
# Folio.Proofs.Script.Envelope

Where the script of an envelope stands.  An envelope parts a text into what
stands before it, the mark that opens it, the script, the mark that closes it
and what stands after it (`find?_eq_append`), so that all of them are pieces of
the text.  Which marks a text must have for a script is told by `markings`
(`isSome_find?_iff`).
-/

namespace Folio.Script.Envelope

open Folio.Text

variable {bare : Bool} {s : List Char} {e : Envelope}

/-! ## Parts -/

/-- The parts of a tag are cut from the text. -/
theorem eq_append_of_tag? (h : tag? s = some e) :
    ∃ closing, s = e.before ++ (tagOpening ++ (e.script ++ (closing ++ e.after))) := by
  simp only [tag?, Option.map_eq_some_iff, Prod.exists] at h
  obtain ⟨before, body, hcut, he⟩ := h
  rw [eq_append_of_cut? hcut]
  split at he
  · next script after hclose =>
    rw [eq_append_of_cut? hclose, ← he]
    exact ⟨tagClosing, rfl⟩
  · rw [← he]
    exact ⟨[], by simp⟩

/-- The parts of an inline script are cut from the text. -/
theorem eq_append_of_inline? (h : inline? s = some e) :
    s = e.before ++ (inlineOpening ++ (e.script ++ e.after)) := by
  simp only [inline?, Option.map_eq_some_iff, Prod.exists] at h
  obtain ⟨before, script, hcut, he⟩ := h
  rw [eq_append_of_cut? hcut, ← he]
  simp

/-- No part of the label can close braces. -/
theorem exists_eq_label_append {rest inner after : List Char}
    (h : scriptLabel ++ rest = inner ++ (bracesClosing ++ after)) :
    ∃ script, inner = scriptLabel ++ script := by
  rcases List.append_eq_append_iff.mp h with ⟨script, hinner, _⟩ | ⟨tail, hlabel, hclose⟩
  · exact ⟨script, hinner⟩
  · cases tail with
    | nil => exact ⟨[], by rw [hlabel]; simp⟩
    | cons c tail =>
        have hc : c = '\x7d' := (List.cons.inj hclose).1.symm
        have hmem : c ∈ scriptLabel := by
          rw [hlabel]
          simp
        rw [hc] at hmem
        exact absurd hmem (by decide)

/-- The label of a script is taken off. -/
@[simp] theorem unlabelled_label_append (script : List Char) :
    unlabelled (scriptLabel ++ script) = script := by
  have hblank : trimStart (scriptLabel ++ script) = scriptLabel ++ script := rfl
  rw [unlabelled, hblank, stripPrefix?_append]
  rfl

theorem unlabelled_isSuffix (inner : List Char) : unlabelled inner <:+ inner := by
  rw [unlabelled]
  cases hlabel : stripPrefix? scriptLabel (trimStart inner) with
  | none => exact List.suffix_refl inner
  | some script =>
      have hsuffix : script <:+ trimStart inner :=
        ⟨scriptLabel, (eq_append_of_stripPrefix? hlabel).symm⟩
      exact hsuffix.trans (List.dropWhile_suffix isBlank)

/-- What stands behind two opening braces is cut at the first two that close them. -/
theorem exists_cut?_of_braces? (h : braces? bare s = some e) :
    ∃ body inner, e = ⟨.braces, e.before, unlabelled inner, e.after⟩ ∧
      s = e.before ++ (bareOpening ++ body) ∧ cut? bracesClosing body = some (inner, e.after) ∧
      (bare = false → ∃ rest, body = scriptLabel ++ rest) := by
  simp only [braces?, Option.bind_eq_bind, Option.bind_eq_some_iff, Option.pure_def,
    Option.some.injEq, Prod.exists] at h
  obtain ⟨before, rest, hopen, inner, after, hclose, rfl⟩ := h
  have hs := eq_append_of_cut? hopen
  cases bare with
  | true =>
      have hrest : s.drop (before.length + 2) = rest := by
        rw [hs, List.drop_length_add_append]
        rfl
      exact ⟨rest, inner, rfl, hs, hrest ▸ hclose, by simp⟩
  | false =>
      have hrest : s.drop (before.length + 2) = scriptLabel ++ rest := by
        rw [hs, List.drop_length_add_append]
        rfl
      exact ⟨scriptLabel ++ rest, inner, rfl, hs, hrest ▸ hclose, fun _ => ⟨rest, rfl⟩⟩

/-- What braces hold stands between two pairs of them, and begins with the label
where a bare pair is a variable. -/
theorem eq_append_of_braces? (h : braces? bare s = some e) :
    ∃ inner, e.script = unlabelled inner ∧
      s = e.before ++ (bareOpening ++ (inner ++ (bracesClosing ++ e.after))) ∧
      (bare = false → ∃ script, inner = scriptLabel ++ script) := by
  obtain ⟨body, inner, he, hs, hclose, hlabel⟩ := exists_cut?_of_braces? h
  have hbody := eq_append_of_cut? hclose
  refine ⟨inner, congrArg Envelope.script he, by rw [hs, hbody], fun hbare => ?_⟩
  obtain ⟨rest, hrest⟩ := hlabel hbare
  exact exists_eq_label_append (hrest.symm.trans hbody)

/-- What is found is one of the three kinds. -/
theorem find?_cases (h : find? bare s = some e) :
    tag? s = some e ∨ braces? bare s = some e ∨ inline? s = some e := by
  rcases earlier_eq h with h | h
  · rcases earlier_eq h with h | h
    · exact Or.inl h
    · exact Or.inr (Or.inl h)
  · exact Or.inr (Or.inr h)

/-- **Parts of a text with an envelope.** -/
theorem find?_eq_append (h : find? bare s = some e) :
    ∃ opening inner closing, e.script <:+ inner ∧
      s = e.before ++ (opening ++ (inner ++ (closing ++ e.after))) := by
  rcases find?_cases h with h | h | h
  · obtain ⟨closing, hs⟩ := eq_append_of_tag? h
    exact ⟨tagOpening, e.script, closing, List.suffix_refl _, hs⟩
  · obtain ⟨inner, hscript, hs, -⟩ := eq_append_of_braces? h
    exact ⟨bareOpening, inner, bracesClosing, hscript ▸ unlabelled_isSuffix inner, hs⟩
  · refine ⟨inlineOpening, e.script, [], List.suffix_refl _, ?_⟩
    exact eq_append_of_inline? h

/-- What stands before an envelope begins the text. -/
theorem before_isPrefix (h : find? bare s = some e) : e.before <+: s := by
  obtain ⟨opening, inner, closing, -, hs⟩ := find?_eq_append h
  rw [hs]
  exact List.prefix_append _ _

/-- The script stands in the text. -/
theorem script_isInfix (h : find? bare s = some e) : e.script <:+: s := by
  obtain ⟨opening, inner, closing, hscript, hs⟩ := find?_eq_append h
  refine hscript.isInfix.trans ?_
  rw [hs, ← List.append_assoc]
  exact List.infix_append' _ _ _

/-- What stands behind an envelope ends the text. -/
theorem after_isSuffix (h : find? bare s = some e) : e.after <:+ s := by
  obtain ⟨opening, inner, closing, -, hs⟩ := find?_eq_append h
  rw [hs]
  simp only [← List.append_assoc]
  exact List.suffix_append _ _

/-! ## Openings -/

/-- The marks that open an envelope where a bare pair of braces is a variable. -/
def openings : List (List Char) := [tagOpening, namedOpening, inlineOpening]

/-- The script stands right behind the mark that opens its envelope. -/
theorem exists_opening (h : find? false s = some e) :
    ∃ opening ∈ openings, ∃ closing,
      s = e.before ++ (opening ++ (e.script ++ (closing ++ e.after))) := by
  rcases find?_cases h with h | h | h
  · obtain ⟨closing, hs⟩ := eq_append_of_tag? h
    exact ⟨tagOpening, by simp [openings], closing, hs⟩
  · obtain ⟨inner, hscript, hs, hlabel⟩ := eq_append_of_braces? h
    obtain ⟨script, rfl⟩ := hlabel rfl
    rw [unlabelled_label_append] at hscript
    refine ⟨namedOpening, by simp [openings], bracesClosing, ?_⟩
    rw [hs, hscript]
    rfl
  · exact ⟨inlineOpening, by simp [openings], [], eq_append_of_inline? h⟩

/-- The earlier of two is none only where there is neither. -/
@[simp] theorem earlier_eq_none_iff {a b : Option Envelope} :
    earlier a b = none ↔ a = none ∧ b = none := by
  cases a with
  | none => simp [earlier]
  | some a =>
      cases b with
      | none => simp [earlier]
      | some b =>
          rw [earlier]
          split <;> simp

/-- Of two envelopes none begins before the one that is taken. -/
theorem length_before_le_of_earlier {a b : Option Envelope} {x : Envelope}
    (h : earlier a b = some e) (hx : a = some x ∨ b = some x) :
    e.before.length ≤ x.before.length := by
  cases a with
  | none =>
      obtain rfl : b = some e := h
      rcases hx with hx | hx
      · contradiction
      · rw [Option.some.inj hx]
  | some a =>
      cases b with
      | none =>
          obtain rfl : a = e := Option.some.inj h
          rcases hx with hx | hx
          · rw [Option.some.inj hx]
          · contradiction
      | some b =>
          rw [earlier] at h
          split at h
          · obtain rfl := Option.some.inj h
            rcases hx with hx | hx
            · obtain rfl := Option.some.inj hx
              omega
            · rw [Option.some.inj hx]
          · obtain rfl := Option.some.inj h
            rcases hx with hx | hx
            · rw [Option.some.inj hx]
            · obtain rfl := Option.some.inj hx
              omega

/-- No tag, no braces and no inline script begin before the envelope that is found. -/
theorem length_before_le (h : find? bare s = some e) {x : Envelope}
    (hx : tag? s = some x ∨ braces? bare s = some x ∨ inline? s = some x) :
    e.before.length ≤ x.before.length := by
  rcases or_assoc.mpr hx with hx | hx
  · cases hearlier : earlier (tag? s) (braces? bare s) with
    | none =>
        obtain ⟨htag, hbraces⟩ := earlier_eq_none_iff.mp hearlier
        simp [htag, hbraces] at hx
    | some y =>
        have hy := length_before_le_of_earlier hearlier hx
        exact le_trans (length_before_le_of_earlier h (Or.inl hearlier)) hy
  · exact length_before_le_of_earlier h (Or.inr hx)

section Before

variable {front back : List Char}

/-- A tag is found no later than at any opening of one. -/
theorem exists_tag? (h : s = front ++ (tagOpening ++ back)) :
    ∃ x, tag? s = some x ∧ x.before.length ≤ front.length := by
  obtain ⟨before, body, hcut, hlength⟩ := exists_cut? h
  rw [tag?, hcut]
  refine ⟨_, rfl, ?_⟩
  dsimp only
  split <;> exact hlength

/-- An inline script is found no later than at any opening of one. -/
theorem exists_inline? (h : s = front ++ (inlineOpening ++ back)) :
    ∃ x, inline? s = some x ∧ x.before.length ≤ front.length := by
  obtain ⟨before, script, hcut, hlength⟩ := exists_cut? h
  rw [inline?, hcut]
  exact ⟨_, rfl, hlength⟩

/-- Braces are found no later than at any opening of them. -/
theorem length_before_le_of_braces? (h : braces? bare s = some e)
    (hs : s = front ++ ((if bare then bareOpening else namedOpening) ++ back)) :
    e.before.length ≤ front.length := by
  simp only [braces?, Option.bind_eq_bind, Option.bind_eq_some_iff, Option.pure_def,
    Option.some.injEq, Prod.exists] at h
  obtain ⟨before, rest, hopen, inner, after, hclose, rfl⟩ := h
  exact length_le_of_cut? hopen hs

/-- Braces are only found as braces. -/
theorem braces?_of_kind (h : find? bare s = some e) (hkind : e.kind = .braces) :
    braces? bare s = some e := by
  rcases find?_cases h with h | h | h
  · simp only [tag?, Option.map_eq_some_iff, Prod.exists] at h
    obtain ⟨before, body, -, rfl⟩ := h
    split at hkind <;> contradiction
  · exact h
  · simp only [inline?, Option.map_eq_some_iff, Prod.exists] at h
    obtain ⟨before, script, -, rfl⟩ := h
    contradiction

/-- Before an envelope in braces no envelope is opened. -/
theorem not_opening_infix_before (h : find? false s = some e) (hkind : e.kind = .braces)
    {opening : List Char} (hopening : opening ∈ openings) : ¬opening <:+: e.before := by
  rintro ⟨front, back, hbefore⟩
  obtain ⟨rest, hs⟩ := before_isPrefix h
  have hsplit : s = front ++ (opening ++ (back ++ rest)) := by
    rw [← hs, ← hbefore]
    simp
  have hle : e.before.length ≤ front.length := by
    simp only [openings, List.mem_cons, List.not_mem_nil, or_false] at hopening
    rcases hopening with rfl | rfl | rfl
    · obtain ⟨x, hx, hlength⟩ := exists_tag? hsplit
      exact le_trans (length_before_le h (Or.inl hx)) hlength
    · exact length_before_le_of_braces? (braces?_of_kind h hkind) hsplit
    · obtain ⟨x, hx, hlength⟩ := exists_inline? hsplit
      exact le_trans (length_before_le h (Or.inr (Or.inr hx))) hlength
  have hpos : 0 < opening.length := by
    have hall : ∀ mark ∈ openings, 0 < mark.length := by decide
    exact hall opening hopening
  rw [← hbefore] at hle
  simp only [List.length_append] at hle
  omega

end Before

/-! ## Braces that come first -/

section First

variable {front script after : List Char}

theorem earlier_of_lt_left {a : Option Envelope}
    (h : ∀ x, a = some x → e.before.length < x.before.length) : earlier a (some e) = some e := by
  cases a with
  | none => rfl
  | some a => exact if_pos (h a rfl)

theorem earlier_of_le_right {b : Option Envelope}
    (h : ∀ x, b = some x → e.before.length ≤ x.before.length) : earlier (some e) b = some e := by
  cases b with
  | none => rfl
  | some b => exact if_neg (Nat.not_lt.mpr (h b rfl))

/-- The first labelled braces are found, with all that stands in them. -/
theorem braces?_of_named (hfront : ¬namedOpening <:+: front) (hscript : '\x7d' ∉ script)
    (after : List Char) :
    braces? false (front ++ (namedOpening ++ (script ++ (bracesClosing ++ after)))) =
      some ⟨.braces, front, script, after⟩ := by
  have hborderless : Borderless namedOpening := by decide
  have hopen := cut?_append_pattern hfront
    (hborderless.apart front (script ++ (bracesClosing ++ after)))
  have hlabelled : '\x7d' ∉ scriptLabel ++ script := by
    rw [List.mem_append, not_or]
    exact ⟨by decide, hscript⟩
  have hlacks : ¬bracesClosing <:+: scriptLabel ++ script :=
    fun hinside => hlabelled (hinside.subset List.mem_cons_self)
  have hclose : cut? bracesClosing (scriptLabel ++ script ++ (bracesClosing ++ after)) =
      some (scriptLabel ++ script, after) :=
    cut?_append_pattern hlacks (apart_of_head_not_mem hlabelled _ _)
  have hbody : (front ++ (namedOpening ++ (script ++ (bracesClosing ++ after)))).drop
      (front.length + 2) = scriptLabel ++ script ++ (bracesClosing ++ after) := by
    rw [List.drop_length_add_append, List.append_assoc]
    rfl
  simp only [braces?, Bool.false_eq_true, if_false, hopen, hbody, hclose, Option.bind_eq_bind,
    Option.bind_some, unlabelled_label_append]
  rfl

/-- What does not begin with a brace begins behind the first of them, or opens an envelope
before it. -/
theorem length_lt_of_not_mem {opening before rest back : List Char} (hopening : '\x7b' ∉ opening)
    (hfront : ¬opening <:+: front) (hs : front ++ '\x7b' :: back = before ++ (opening ++ rest)) :
    front.length < before.length := by
  rcases split_at_of_not_mem hopening hs with ⟨more, rfl, -⟩ | ⟨more, rfl, -⟩
  · exact absurd (List.infix_append' before opening more) hfront
  · simp

/-- **Braces.**  The script in the first braces is found where no envelope is opened before
them and it does not close them itself. -/
theorem find?_of_named (hfront : ∀ opening ∈ openings, ¬opening <:+: front)
    (hscript : '\x7d' ∉ script) (after : List Char) :
    find? false (front ++ (namedOpening ++ (script ++ (bracesClosing ++ after)))) =
      some ⟨.braces, front, script, after⟩ := by
  rw [find?, braces?_of_named (hfront _ (by simp [openings])) hscript, earlier_of_lt_left,
    earlier_of_le_right]
  · intro x hx
    exact Nat.le_of_lt (length_lt_of_not_mem (by decide) (hfront inlineOpening (by simp [openings]))
      (eq_append_of_inline? hx))
  · intro x hx
    obtain ⟨closing, hs⟩ := eq_append_of_tag? hx
    exact length_lt_of_not_mem (by decide) (hfront tagOpening (by simp [openings])) hs

end First

/-! ## Texts without a script -/

/-- The mark that opens braces. -/
def bracesOpening (bare : Bool) : List Char := if bare then bareOpening else namedOpening

/-- The marks that make an envelope where any pair of braces is a script. -/
def markings : List (List (List Char)) :=
  [[tagOpening], [bareOpening, bracesClosing], [inlineOpening]]

/-- Without an opening there is no tag. -/
@[simp] theorem tag?_eq_none_iff : tag? s = none ↔ ¬tagOpening <:+: s := by
  rw [tag?, Option.map_eq_none_iff, cut?_eq_none_iff]

/-- Without an opening there is no inline script. -/
@[simp] theorem inline?_eq_none_iff : inline? s = none ↔ ¬inlineOpening <:+: s := by
  rw [inline?, Option.map_eq_none_iff, cut?_eq_none_iff]

/-- Without an opening and a closing behind it there are no braces. -/
@[simp] theorem braces?_eq_none_iff :
    braces? bare s = none ↔ ¬Spells [bracesOpening bare, bracesClosing] s := by
  constructor
  · rintro h ⟨front, back, hs, inner, after, rfl, -⟩
    obtain ⟨before, rest, hopen, hlength⟩ := exists_cut? hs
    have hclosing : bracesClosing ++ after <:+ s.drop (before.length + 2) := by
      refine List.suffix_of_suffix_length_le ?_ (List.drop_suffix _ s) ?_
      · rw [hs]
        exact ((List.suffix_append inner _).trans (List.suffix_append (bracesOpening bare) _)).trans
          (List.suffix_append front _)
      · have htwo : 2 ≤ (bracesOpening bare).length := by cases bare <;> decide
        rw [List.length_drop, hs]
        simp only [List.length_append]
        omega
    have hclose : cut? bracesClosing (s.drop (before.length + 2)) ≠ none := by
      rw [Ne, cut?_eq_none_iff, not_not]
      exact (List.prefix_append _ _).isInfix.trans hclosing.isInfix
    obtain ⟨parts, hparts⟩ := Option.ne_none_iff_exists'.mp hclose
    rw [braces?, ← bracesOpening, hopen] at h
    simp only [Option.bind_eq_bind, Option.bind_some, hparts] at h
    contradiction
  · intro h
    cases hbraces : braces? bare s with
    | none => rfl
    | some e =>
        refine absurd ?_ h
        obtain ⟨inner, -, hs, hlabel⟩ := eq_append_of_braces? hbraces
        cases bare with
        | true => exact ⟨e.before, _, hs, inner, e.after, rfl, trivial⟩
        | false =>
            -- the label is a part of the opening here
            obtain ⟨script, rfl⟩ := hlabel rfl
            exact ⟨e.before, _, hs, script, e.after, rfl, trivial⟩

theorem find?_eq_none_iff : find? bare s = none ↔
    ¬tagOpening <:+: s ∧ ¬Spells [bracesOpening bare, bracesClosing] s ∧
      ¬inlineOpening <:+: s := by
  simp [find?, and_assoc]

/-- **Scripts in rules.**  A text holds a script exactly when it has the marks of
an envelope, one after the other. -/
theorem isSome_find?_iff : (find? true s).isSome ↔ ∃ marks ∈ markings, Spells marks s := by
  rw [← not_iff_not, Option.not_isSome_iff_eq_none, find?_eq_none_iff]
  simp [markings, spells_singleton_iff, bracesOpening]

/-- A piece of a text without a script holds none. -/
theorem find?_eq_none_of_isInfix {t : List Char} (h : find? bare t = none) (hs : s <:+: t) :
    find? bare s = none := by
  rw [find?_eq_none_iff] at h ⊢
  obtain ⟨htag, hbraces, hinline⟩ := h
  exact ⟨fun hmark => htag (hmark.trans hs), fun hspells => hbraces (hspells.of_isInfix hs),
    fun hmark => hinline (hmark.trans hs)⟩

end Folio.Script.Envelope
