import Folio.Proofs.Text.Hex
import Folio.Proofs.Text.Utf8
import Folio.Url.Percent

/-!
# Folio.Proofs.Url.Escape

What percent-encoding writes.  A byte is one kept character or an escape, `%` and
two capital hexadecimal digits (`escaped_encodeBytes`); where `%` itself is not
kept no two readings are possible, and undoing the encoding gives the bytes
back, whatever is kept besides (`decodeBytes_encodeBytes`).
-/

namespace Folio.Url

open Folio.Text

variable {keep : Char → Bool} {marks s : List Char} {c : Char}

/-- The capital hexadecimal digits. -/
def capitalHexDigits : List Char := "0123456789ABCDEF".toList

/-- A text of ASCII letters and digits, marks, and bytes in escapes. -/
inductive Escaped (marks : List Char) : List Char → Prop
  | nil : Escaped marks []
  | kept {c : Char} {s : List Char} (plain : isAsciiAlnum c = true ∨ c ∈ marks)
      (rest : Escaped marks s) : Escaped marks (c :: s)
  | byte {a b : Char} {s : List Char} (high : a ∈ capitalHexDigits) (low : b ∈ capitalHexDigits)
      (rest : Escaped marks s) : Escaped marks ('%' :: a :: b :: s)

/-! ## Writing -/

theorem hexDigitUpper_mem : ∀ n < 16, hexDigitUpper n ∈ capitalHexDigits := by decide

/-- **Escapes.**  Bytes are written as letters, digits, kept marks and escapes. -/
theorem escaped_encodeBytes (hkeep : ∀ c, keep c = true → isAsciiAlnum c = true ∨ c ∈ marks)
    (bytes : List UInt8) : Escaped marks (encodeBytes keep bytes) := by
  induction bytes with
  | nil => exact .nil
  | cons b bytes ih =>
      rw [encodeBytes, List.flatMap_cons]
      split
      · next hkept => exact .kept (hkeep _ (Bool.and_eq_true_iff.mp hkept).2) ih
      · exact .byte (hexDigitUpper_mem _ (toNat_div_lt b)) (hexDigitUpper_mem _ (toNat_mod_lt b)) ih

/-- An escape adds no characters but letters, digits and `%`. -/
theorem Escaped.of_mem (h : Escaped marks s) (hc : c ∈ s) :
    isAsciiAlnum c = true ∨ c ∈ marks ∨ c = '%' := by
  have hdigit : ∀ d ∈ capitalHexDigits, isAsciiAlnum d = true := by decide
  induction h with
  | nil => cases hc
  | kept plain _ ih =>
      rcases List.mem_cons.mp hc with rfl | hc
      · exact plain.imp_right Or.inl
      · exact ih hc
  | byte high low _ ih =>
      simp only [List.mem_cons] at hc
      rcases hc with rfl | rfl | rfl | hc
      · exact Or.inr (Or.inr rfl)
      · exact Or.inl (hdigit _ high)
      · exact Or.inl (hdigit _ low)
      · exact ih hc

/-! ## Reading -/

@[simp] theorem decodeBytes_encodeByte_append (b : UInt8) (rest : List Char) :
    decodeBytes (encodeByte b ++ rest) = b :: decodeBytes rest := by
  simp only [encodeByte, decodeBytes, List.cons_append, List.nil_append, decodeBytesFrom,
    hexDigit?_hexDigitUpper _ (toNat_div_lt b), hexDigit?_hexDigitUpper _ (toNat_mod_lt b),
    ofNat_digits]

theorem decodeBytes_cons_of_ne (hc : c ≠ '%') (rest : List Char) :
    decodeBytes (c :: rest) = String.utf8EncodeChar c ++ decodeBytes rest := by
  rw [decodeBytes, decodeBytesFrom]
  · rfl
  · rintro a b more rfl
    exact absurd rfl hc

/-- The character of an ASCII byte has that byte alone. -/
theorem utf8EncodeChar_ofNat {b : UInt8} (hb : b < 128) :
    String.utf8EncodeChar (Char.ofNat b.toNat) = [b] := by
  have hlt : b.toNat < 128 := UInt8.lt_iff_toNat_lt.mp hb
  have hvalid : b.toNat.isValidChar := Or.inl (by omega)
  have hvalue : (Char.ofNat b.toNat).val.toNat = b.toNat := by
    rw [Char.ofNat, dif_pos hvalid]
    rfl
  rw [String.utf8EncodeChar, hvalue, if_pos (by omega), UInt8.ofNat_toNat]

/-- **Reading back.**  Undoing percent-encoding gives the bytes that were encoded. -/
theorem decodeBytes_encodeBytes (hpercent : keep '%' = false) (bytes : List UInt8) :
    decodeBytes (encodeBytes keep bytes) = bytes := by
  induction bytes with
  | nil => rfl
  | cons b bytes ih =>
      rw [encodeBytes, List.flatMap_cons, ← encodeBytes]
      split
      · next hkept =>
        obtain ⟨hascii, hkept⟩ := Bool.and_eq_true_iff.mp hkept
        have hne : Char.ofNat b.toNat ≠ '%' := by
          intro heq
          rw [heq, hpercent] at hkept
          contradiction
        simp [decodeBytes_cons_of_ne hne, ih, utf8EncodeChar_ofNat (of_decide_eq_true hascii)]
      · rw [decodeBytes_encodeByte_append, ih]

end Folio.Url
