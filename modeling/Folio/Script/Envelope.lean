import Folio.Text.Blank
import Folio.Text.Search

/-!
# Folio.Script.Envelope

Script envelopes within a rule or template.  A script stands

* in a tag: `<js>…</js>`, to the end of the text when it is not closed;
* in braces: `{{js:…}}`, and in rules also `{{…}}`, which count only when
  they are closed;
* inline: from `@js:` to the end of the text.

The envelope that begins first is taken; the three openings differ in every
two positions they could share, so no two envelopes begin at one place.
-/

namespace Folio.Script

open Folio.Text

/-- The three ways to mark a script. -/
inductive EnvelopeKind where
  | tag
  | braces
  | inline
deriving DecidableEq, Repr

/-- A script within a text, with what stands before and after its envelope. -/
structure Envelope where
  kind : EnvelopeKind
  before : List Char
  script : List Char
  after : List Char
deriving DecidableEq, Repr

namespace Envelope

/-- The mark that opens a tag. -/
def tagOpening : List Char := "<js>".toList

/-- The mark that closes a tag. -/
def tagClosing : List Char := "</js>".toList

/-- The mark that opens braces where a bare pair of braces is a script. -/
def bareOpening : List Char := "\x7b\x7b".toList

/-- The mark that opens braces where a bare pair of braces is a variable. -/
def namedOpening : List Char := "\x7b\x7bjs:".toList

/-- The mark that closes braces. -/
def bracesClosing : List Char := "\x7d\x7d".toList

/-- The mark of an inline script. -/
def inlineOpening : List Char := "@js:".toList

/-- The word that may introduce a script in braces. -/
def scriptLabel : List Char := "js:".toList

/-- The first tag envelope. -/
def tag? (s : List Char) : Option Envelope :=
  (cut? tagOpening s).map fun (before, body) =>
    match cut? tagClosing body with
    | some (script, after) => ⟨.tag, before, script, after⟩
    | none => ⟨.tag, before, body, []⟩

/-- The script of braces, without the label that may introduce it. -/
def unlabelled (inner : List Char) : List Char :=
  (stripPrefix? scriptLabel (trimStart inner)).getD inner

/-- The first brace envelope, unless the braces it opens are never closed. -/
def braces? (bare : Bool) (s : List Char) : Option Envelope := do
  let (before, _) ← cut? (if bare then bareOpening else namedOpening) s
  let body := s.drop (before.length + 2)
  let (inner, after) ← cut? bracesClosing body
  return ⟨.braces, before, unlabelled inner, after⟩

/-- The first inline envelope. -/
def inline? (s : List Char) : Option Envelope :=
  (cut? inlineOpening s).map fun (before, script) => ⟨.inline, before, script, []⟩

/-- The one of two envelopes that begins first. -/
def earlier (a b : Option Envelope) : Option Envelope :=
  match a, b with
  | none, b => b
  | a, none => a
  | some a, some b => if b.before.length < a.before.length then some b else some a

/-- The first script envelope of a text.  With `bare` any closed pair of
double braces is one, otherwise only one labelled `js:`. -/
def find? (bare : Bool) (s : List Char) : Option Envelope :=
  earlier (earlier (tag? s) (braces? bare s)) (inline? s)

/-! ## The parts of an envelope are shorter than the text -/

theorem tag?_shorter {s : List Char} {e : Envelope} (h : tag? s = some e) :
    e.before.length < s.length ∧ e.after.length < s.length := by
  simp only [tag?, Option.map_eq_some_iff, Prod.exists] at h
  obtain ⟨before, body, hc, he⟩ := h
  have hs := congrArg List.length (eq_append_of_cut? hc)
  have hl : tagOpening.length = 4 := by decide
  simp only [List.length_append] at hs
  split at he
  · next script after hc' =>
    have hb := congrArg List.length (eq_append_of_cut? hc')
    simp only [List.length_append] at hb
    subst he
    simp only
    omega
  · subst he
    simp only [List.length_nil]
    omega

theorem braces?_shorter {bare : Bool} {s : List Char} {e : Envelope}
    (h : braces? bare s = some e) :
    e.before.length < s.length ∧ e.after.length < s.length := by
  simp only [braces?, Option.bind_eq_bind, Option.bind_eq_some_iff, Option.pure_def,
    Option.some.injEq, Prod.exists] at h
  obtain ⟨before, rest, hc, inner, after, hc', he⟩ := h
  have hs := congrArg List.length (eq_append_of_cut? hc)
  have hb := congrArg List.length (eq_append_of_cut? hc')
  have hl : 2 ≤ (if bare = true then bareOpening else namedOpening).length := by
    cases bare <;> decide
  simp only [List.length_append, List.length_drop] at hs hb
  subst he
  simp only
  omega

theorem inline?_shorter {s : List Char} {e : Envelope} (h : inline? s = some e) :
    e.before.length < s.length ∧ e.after.length < s.length := by
  simp only [inline?, Option.map_eq_some_iff, Prod.exists] at h
  obtain ⟨before, script, hc, he⟩ := h
  have hs := congrArg List.length (eq_append_of_cut? hc)
  have hl : inlineOpening.length = 4 := by decide
  simp only [List.length_append] at hs
  subst he
  simp only [List.length_nil]
  omega

theorem earlier_eq {a b : Option Envelope} {e : Envelope} (h : earlier a b = some e) :
    a = some e ∨ b = some e := by
  unfold earlier at h
  split at h
  · exact Or.inr h
  · exact Or.inl h
  · split at h
    · exact Or.inr h
    · exact Or.inl h

/-- Both the text before an envelope and the text after it are shorter than
the whole, so that rules can be read by recursion on them. -/
theorem find?_shorter {bare : Bool} {s : List Char} {e : Envelope}
    (h : find? bare s = some e) :
    e.before.length < s.length ∧ e.after.length < s.length := by
  rcases earlier_eq h with h | h
  · rcases earlier_eq h with h | h
    · exact tag?_shorter h
    · exact braces?_shorter h
  · exact inline?_shorter h

end Envelope

end Folio.Script
