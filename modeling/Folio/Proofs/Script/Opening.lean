import Folio.Proofs.Script.Envelope

/-!
# Folio.Proofs.Script.Opening

Where the first envelope of a text begins.  An envelope may begin at a mark that
opens a tag or an inline script, and at one that opens braces which are closed
further on (`OpensAt`).  Of each kind of mark the search looks at the first one
only.  That is enough: a text has an envelope exactly when one may begin
somewhere (`isSome_find?_iff_exists_opensAt`), the one that is found begins
leftmost (`OpensAt.length_le`), and what stands before it has none
(`find?_before_eq_none`).  From there on the text is the mark that opens the
envelope, the script, the mark that closes it and what stands after it
(`Parts`).
-/

namespace Folio.Script.Envelope

open Folio.Text

variable {bare : Bool} {s front : List Char} {e : Envelope}

/-! ## Openings -/

/-- An envelope may begin behind `front`: a mark that opens a tag or an inline script
stands there, or one that opens braces, which are closed somewhere behind it. -/
inductive OpensAt (bare : Bool) : List Char → List Char → Prop
  | tag {front back : List Char} : OpensAt bare (front ++ (tagOpening ++ back)) front
  | inline {front back : List Char} : OpensAt bare (front ++ (inlineOpening ++ back)) front
  | braces {front inner back : List Char} :
      OpensAt bare (front ++ (bracesOpening bare ++ (inner ++ (bracesClosing ++ back)))) front

theorem OpensAt.append_right (h : OpensAt bare s front) (rest : List Char) :
    OpensAt bare (s ++ rest) front := by
  cases h with
  | @tag _ back =>
      have htag : OpensAt bare (front ++ (tagOpening ++ (back ++ rest))) front := .tag
      simpa only [List.append_assoc] using htag
  | @inline _ back =>
      have hinline : OpensAt bare (front ++ (inlineOpening ++ (back ++ rest))) front :=
        .inline
      simpa only [List.append_assoc] using hinline
  | @braces _ inner back =>
      have hbraces : OpensAt bare (front ++ (bracesOpening bare ++ (inner ++
          (bracesClosing ++ (back ++ rest))))) front := .braces
      simpa only [List.append_assoc] using hbraces

theorem exists_opensAt_iff : (∃ front, OpensAt bare s front) ↔
    tagOpening <:+: s ∨ Spells [bracesOpening bare, bracesClosing] s ∨ inlineOpening <:+: s := by
  constructor
  · rintro ⟨front, htag | hinline | hbraces⟩
    · exact Or.inl (List.infix_append' front tagOpening _)
    · exact Or.inr (Or.inr (List.infix_append' front inlineOpening _))
    · exact Or.inr (Or.inl ⟨front, _, rfl, _, _, rfl, trivial⟩)
  · rintro (⟨front, back, rfl⟩ | ⟨front, _, rfl, inner, back, rfl, -⟩ | ⟨front, back, rfl⟩)
    · exact ⟨front, by simpa only [List.append_assoc] using .tag⟩
    · exact ⟨front, .braces⟩
    · exact ⟨front, by simpa only [List.append_assoc] using .inline⟩

/-- A text has an envelope exactly when one may begin in it. -/
theorem isSome_find?_iff_exists_opensAt :
    (find? bare s).isSome ↔ ∃ front, OpensAt bare s front := by
  rw [← not_iff_not, Option.not_isSome_iff_eq_none, find?_eq_none_iff, exists_opensAt_iff]
  simp only [not_or]

/-! ## The leftmost opening -/

/-- The envelope that is found begins where one may begin. -/
theorem opensAt_before (h : find? bare s = some e) : OpensAt bare s e.before := by
  rcases find?_cases h with h | h | h
  · obtain ⟨closing, hs⟩ := eq_append_of_tag? h
    rw [hs]
    exact .tag
  · obtain ⟨inner, -, hs, hlabel⟩ := eq_append_of_braces? h
    rw [hs]
    cases bare with
    | true => exact .braces
    | false =>
        -- the label is a part of the opening here
        obtain ⟨script, rfl⟩ := hlabel rfl
        exact .braces
  · rw [eq_append_of_inline? h]
    exact .inline

theorem exists_braces? {inner back : List Char}
    (h : s = front ++ (bracesOpening bare ++ (inner ++ (bracesClosing ++ back)))) :
    ∃ x, braces? bare s = some x ∧ x.before.length ≤ front.length := by
  cases hbraces : braces? bare s with
  | none => exact absurd ⟨front, _, h, inner, back, rfl, trivial⟩ (braces?_eq_none_iff.mp hbraces)
  | some x => exact ⟨x, rfl, length_before_le_of_braces? hbraces h⟩

/-- No envelope may begin before the one that is found. -/
theorem OpensAt.length_le (hopens : OpensAt bare s front) (h : find? bare s = some e) :
    e.before.length ≤ front.length := by
  cases hopens with
  | @tag _ back =>
      obtain ⟨x, hx, hlength⟩ := exists_tag? rfl
      exact le_trans (length_before_le h (Or.inl hx)) hlength
  | @inline _ back =>
      obtain ⟨x, hx, hlength⟩ := exists_inline? rfl
      exact le_trans (length_before_le h (Or.inr (Or.inr hx))) hlength
  | @braces _ inner back =>
      obtain ⟨x, hx, hlength⟩ := exists_braces? rfl
      exact le_trans (length_before_le h (Or.inr (Or.inl hx))) hlength

/-- What stands before the first envelope has none: one that began there would begin further
to the left in the whole text. -/
theorem find?_before_eq_none (h : find? bare s = some e) : find? bare e.before = none := by
  cases hbefore : find? bare e.before with
  | none => rfl
  | some x =>
      obtain ⟨rest, hs⟩ := before_isPrefix h
      have hopens := (opensAt_before hbefore).append_right rest
      rw [hs] at hopens
      have hle := hopens.length_le h
      have hlt := (find?_shorter hbefore).1
      omega

/-! ## From the opening on -/

/-- The word that introduces a script in braces, with the blanks in front of it. -/
def IsLabel (label : List Char) : Prop :=
  ∃ blanks, (∀ c ∈ blanks, isBlank c = true) ∧ label = blanks ++ scriptLabel

/-- The mark between two texts is the first one in the text that they make with it. -/
def IsFirst (mark before after : List Char) : Prop :=
  ∀ front back, before ++ (mark ++ after) = front ++ (mark ++ back) → before.length ≤ front.length

/-- An envelope from its opening on.  A tag that is not closed and an inline script reach to the
end of the text.  In braces a label is no part of the script. -/
inductive Parts : List Char → Envelope → Prop
  | tag {before script after : List Char} (closed : IsFirst tagClosing script after) :
      Parts (tagOpening ++ (script ++ (tagClosing ++ after))) ⟨.tag, before, script, after⟩
  | openTag {before script : List Char} (unclosed : ¬tagClosing <:+: script) :
      Parts (tagOpening ++ script) ⟨.tag, before, script, []⟩
  | inline {before script : List Char} :
      Parts (inlineOpening ++ script) ⟨.inline, before, script, []⟩
  | labelled {before label script after : List Char} (hlabel : IsLabel label)
      (closed : IsFirst bracesClosing (label ++ script) after) :
      Parts (bareOpening ++ (label ++ (script ++ (bracesClosing ++ after))))
        ⟨.braces, before, script, after⟩
  | unlabelled {before script after : List Char}
      (hlabel : ∀ label, IsLabel label → ¬label <+: script)
      (closed : IsFirst bracesClosing script after) :
      Parts (bareOpening ++ (script ++ (bracesClosing ++ after))) ⟨.braces, before, script, after⟩

theorem isFirst_of_cut? {mark before after : List Char} (h : cut? mark s = some (before, after)) :
    IsFirst mark before after := by
  intro front back hs
  rw [← eq_append_of_cut? h] at hs
  exact length_le_of_cut? h hs

/-- A script in braces is all that they hold but a label. -/
theorem unlabelled_cases (inner : List Char) :
    (∃ label, IsLabel label ∧ inner = label ++ unlabelled inner) ∨
      unlabelled inner = inner ∧ ∀ label, IsLabel label → ¬label <+: inner := by
  have hblanks : ∀ c ∈ inner.takeWhile isBlank, isBlank c = true :=
    fun c hc => List.mem_takeWhile_imp hc
  rw [unlabelled]
  cases hstrip : stripPrefix? scriptLabel (trimStart inner) with
  | some script =>
      refine Or.inl ⟨inner.takeWhile isBlank ++ scriptLabel, ⟨_, hblanks, rfl⟩, ?_⟩
      rw [List.append_assoc, Option.getD_some, ← eq_append_of_stripPrefix? hstrip, trimStart,
        List.takeWhile_append_dropWhile]
  | none =>
      refine Or.inr ⟨rfl, ?_⟩
      rintro _ ⟨blanks, hall, rfl⟩ ⟨rest, rfl⟩
      have hlabel : trimStart (scriptLabel ++ rest) = scriptLabel ++ rest := rfl
      rw [List.append_assoc, trimStart, List.dropWhile_append_of_pos hall, ← trimStart, hlabel,
        stripPrefix?_append] at hstrip
      contradiction

theorem parts_of_tag? (h : tag? s = some e) : ∃ rest, s = e.before ++ rest ∧ Parts rest e := by
  simp only [tag?, Option.map_eq_some_iff, Prod.exists] at h
  obtain ⟨before, body, hopen, he⟩ := h
  have hs := eq_append_of_cut? hopen
  cases hclose : cut? tagClosing body with
  | none =>
      rw [hclose] at he
      subst he
      exact ⟨_, hs, .openTag (cut?_eq_none_iff.mp hclose)⟩
  | some parts =>
      obtain ⟨script, after⟩ := parts
      rw [hclose] at he
      subst he
      rw [eq_append_of_cut? hclose] at hs
      exact ⟨_, hs, .tag (isFirst_of_cut? hclose)⟩

theorem parts_of_braces? (h : braces? bare s = some e) :
    ∃ rest, s = e.before ++ rest ∧ Parts rest e := by
  obtain ⟨body, inner, he, hs, hclose, -⟩ := exists_cut?_of_braces? h
  obtain ⟨kind, before, script, after⟩ := e
  obtain ⟨rfl, -, rfl, -⟩ := Envelope.mk.inj he
  have hfirst : IsFirst bracesClosing inner after := isFirst_of_cut? hclose
  rw [eq_append_of_cut? hclose] at hs
  refine ⟨_, hs, ?_⟩
  rcases unlabelled_cases inner with ⟨label, hlabel, hinner⟩ | ⟨hinner, hlabel⟩
  · have hparts : Parts (bareOpening ++ (label ++ (unlabelled inner ++
        (bracesClosing ++ after)))) ⟨.braces, before, unlabelled inner, after⟩ :=
      .labelled hlabel (hinner ▸ hfirst)
    rwa [← List.append_assoc label, ← hinner] at hparts
  · rw [hinner]
    exact .unlabelled hlabel hfirst

theorem parts_of_inline? (h : inline? s = some e) :
    ∃ rest, s = e.before ++ rest ∧ Parts rest e := by
  simp only [inline?, Option.map_eq_some_iff, Prod.exists] at h
  obtain ⟨before, script, hopen, rfl⟩ := h
  exact ⟨_, eq_append_of_cut? hopen, .inline⟩

/-- **Parts of an envelope.** -/
theorem parts_of_find? (h : find? bare s = some e) :
    ∃ rest, s = e.before ++ rest ∧ Parts rest e := by
  rcases find?_cases h with h | h | h
  · exact parts_of_tag? h
  · exact parts_of_braces? h
  · exact parts_of_inline? h

/-- The envelope is the leftmost one that a text has. -/
structure IsLeftmost (bare : Bool) (s : List Char) (e : Envelope) : Prop where
  opens : OpensAt bare s e.before
  first : ∀ front, OpensAt bare s front → e.before.length ≤ front.length
  before_eq_none : find? bare e.before = none
  parts : ∃ rest, s = e.before ++ rest ∧ Parts rest e

theorem isLeftmost_of_find? (h : find? bare s = some e) : IsLeftmost bare s e :=
  ⟨opensAt_before h, fun _ hopens => hopens.length_le h, find?_before_eq_none h, parts_of_find? h⟩

end Folio.Script.Envelope
