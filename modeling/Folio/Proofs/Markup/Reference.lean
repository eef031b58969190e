import Folio.Markup.Node
import Folio.Markup.Reference

/-!
# Folio.Proofs.Markup.Reference

Character references and what they are written for.  A text is written with
references for the characters that markup would take for its own, and decoding
what was written gives the text back (`decodeClosed_flatMap_escapeText`): each
reference is decoded once, and what it stands for is not looked at again.
-/

namespace Folio.Markup

variable {s : List Char}

/-! ## Decoding -/

/-- The characters of a reference that has been decoded are passed over. -/
@[simp] theorem decodeFrom_append (front rest : List Char) :
    decodeFrom front.length (front ++ rest) = decodeFrom 0 rest := by
  induction front with
  | nil => rfl
  | cons c front ih => exact ih

theorem decodeClosed_cons {c : Char} (h : c ≠ '&') (s : List Char) :
    decodeClosed (c :: s) = c :: decodeClosed s := by
  simp [decodeClosed, decodeFrom, h]

/-- A text without ampersands has no references. -/
theorem decodeClosed_of_not_mem (h : '&' ∉ s) : decodeClosed s = s := by
  induction s with
  | nil => rfl
  | cons c s ih =>
      rw [List.mem_cons, not_or] at h
      rw [decodeClosed_cons (Ne.symm h.1), ih h.2]

/-- A reference that a semicolon closes is decoded, and then the text behind it. -/
theorem decodeClosed_reference (inside : List Char) {text : List Char}
    (hinside : ∀ c ∈ inside, isReferenceChar c = true)
    (htext : closedReference? inside = some text) (rest : List Char) :
    decodeClosed ('&' :: (inside ++ ';' :: rest)) = text ++ decodeClosed rest := by
  have hsemicolon : isReferenceChar ';' = false := by decide
  have htake : (inside ++ ';' :: rest).takeWhile isReferenceChar = inside := by
    simp [List.takeWhile_append_of_pos hinside, hsemicolon]
  have hskip : decodeFrom (inside.length + 1) (inside ++ ';' :: rest) = decodeFrom 0 rest := by
    simpa using decodeFrom_append (inside ++ [';']) rest
  simp [decodeClosed, decodeFrom, htake, htext, hskip]

/-! ## Written texts -/

/-- What is written for a character is decoded to it. -/
@[simp] theorem decodeClosed_escapeText (c : Char) (rest : List Char) :
    decodeClosed (escapeText c ++ rest) = c :: decodeClosed rest := by
  unfold escapeText
  split
  · exact decodeClosed_reference "amp".toList (by decide) rfl rest
  · exact decodeClosed_reference "lt".toList (by decide) rfl rest
  · exact decodeClosed_reference "gt".toList (by decide) rfl rest
  · exact decodeClosed_reference "nbsp".toList (by decide) rfl rest
  · exact decodeClosed_cons (by assumption) rest

/-- **References.**  Decoding gives back a text that was written with references. -/
@[simp] theorem decodeClosed_flatMap_escapeText (s : List Char) :
    decodeClosed (s.flatMap escapeText) = s := by
  induction s with
  | nil => rfl
  | cons c s ih => rw [List.flatMap_cons, decodeClosed_escapeText, ih]

/-- In a text as it is written no tag begins. -/
theorem not_mem_flatMap_escapeText (s : List Char) : '<' ∉ s.flatMap escapeText := by
  rw [List.mem_flatMap]
  rintro ⟨c, -, hc⟩
  unfold escapeText at hc
  split at hc
  · simp at hc
  · simp at hc
  · simp at hc
  · simp at hc
  · next hangle _ _ => exact hangle (List.mem_singleton.mp hc).symm

end Folio.Markup
