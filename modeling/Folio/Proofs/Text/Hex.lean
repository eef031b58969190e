import Folio.Text.Ascii

/-!
# Folio.Proofs.Text.Hex

Hexadecimal digits.  A byte is two of them, and the digits of bytes are read as
these bytes (`ofHex?_toHex`), so that no two lists of bytes have the same digits.
-/

namespace Folio.Text

theorem toNat_div_lt (b : UInt8) : b.toNat / 16 < 16 := Nat.div_lt_of_lt_mul b.toNat_lt

theorem toNat_mod_lt (b : UInt8) : b.toNat % 16 < 16 := Nat.mod_lt _ (by decide)

/-- A byte is put together from its two digits. -/
theorem ofNat_digits (b : UInt8) : UInt8.ofNat (b.toNat / 16 * 16 + b.toNat % 16) = b := by
  rw [Nat.div_add_mod', UInt8.ofNat_toNat]

theorem hexDigit?_hexDigit : ∀ n < 16, hexDigit? (hexDigit n) = some n := by decide

theorem hexDigit?_hexDigitUpper : ∀ n < 16, hexDigit? (hexDigitUpper n) = some n := by decide

/-- **Reading back.**  The digits of bytes are read as these bytes. -/
@[simp] theorem ofHex?_toHex (bytes : List UInt8) : ofHex? (toHex bytes).toList = some bytes := by
  rw [toHex, String.toList_ofList]
  induction bytes with
  | nil => rfl
  | cons b bytes ih =>
      have hhigh := hexDigit?_hexDigit _ (toNat_div_lt b)
      have hlow := hexDigit?_hexDigit _ (toNat_mod_lt b)
      simp only [List.flatMap_cons, List.cons_append, List.nil_append, ofHex?, hhigh, hlow, ih,
        Option.bind_eq_bind, Option.bind_some, ofNat_digits]

@[simp] theorem toHex_inj {bytes others : List UInt8} :
    toHex bytes = toHex others ↔ bytes = others := by
  refine ⟨fun h => ?_, congrArg toHex⟩
  rw [← Option.some_inj, ← ofHex?_toHex, ← ofHex?_toHex, h]

end Folio.Text
