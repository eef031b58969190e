import Folio.Text.Utf8
import Mathlib.Tactic.SplitIfs

/-!
# Folio.Proofs.Text.Utf8

Reading what `encode` writes.  The scan takes the bytes of one character from
the state between two characters back to it and puts the character out
(`scan_utf8EncodeChar`), so that the bytes of a text are read as that text,
whatever stands behind them (`scan_encode_append`), and no two texts have the same
bytes.  Bytes are in the order of the characters (`encode_lt`).
-/

namespace Folio.Text.Utf8

/-- A character is no half of a surrogate pair and none beyond the last plane. -/
theorem toNat_isValidChar (c : Char) :
    c.toNat < 0xD800 ∨ 0xDFFF < c.toNat ∧ c.toNat < 0x110000 := c.valid

/-! ## Single bytes -/

section Bytes

variable {n : Nat} (rest : List UInt8)

theorem scan_one (h : n < 0x80) :
    scan start (UInt8.ofNat n :: rest) = some (Char.ofNat n) :: scan start rest := by
  have hbyte : n < 256 := by omega
  rw [scan, step, start, lead, UInt8.toNat_ofNat_of_lt' hbyte, if_pos h]
  rfl

theorem scan_lead_two (h₁ : 2 ≤ n) (h₂ : n < 32) :
    scan start (UInt8.ofNat (n + 0xC0) :: rest) = scan ⟨1, n, 0x80, 0xBF⟩ rest := by
  have hbyte : n + 0xC0 < 256 := by omega
  rw [scan, step, start, lead, UInt8.toNat_ofNat_of_lt' hbyte, if_neg (by omega),
    if_pos (by omega), Nat.add_sub_cancel]
  rfl

/-- The second byte is bounded where the character could be written in two bytes or
would be half of a surrogate pair. -/
theorem scan_lead_three (h : n < 16) :
    scan start (UInt8.ofNat (n + 0xE0) :: rest) =
      scan ⟨2, n, if n = 0 then 0xA0 else 0x80, if n = 13 then 0x9F else 0xBF⟩ rest := by
  have hbyte : n + 0xE0 < 256 := by omega
  have hzero : n + 0xE0 = 0xE0 ↔ n = 0 := by omega
  have hsurrogate : n + 0xE0 = 0xED ↔ n = 13 := by omega
  rw [scan, step, start, lead, UInt8.toNat_ofNat_of_lt' hbyte, if_neg (by omega),
    if_neg (by omega), if_pos (by omega), Nat.add_sub_cancel]
  simp only [hzero, hsurrogate]
  rfl

/-- The second byte is bounded where the character could be written in three bytes or
would lie beyond the last plane. -/
theorem scan_lead_four (h : n < 5) :
    scan start (UInt8.ofNat (n + 0xF0) :: rest) =
      scan ⟨3, n, if n = 0 then 0x90 else 0x80, if n = 4 then 0x8F else 0xBF⟩ rest := by
  have hbyte : n + 0xF0 < 256 := by omega
  have hzero : n + 0xF0 = 0xF0 ↔ n = 0 := by omega
  have hlast : n + 0xF0 = 0xF4 ↔ n = 4 := by omega
  rw [scan, step, start, lead, UInt8.toNat_ofNat_of_lt' hbyte, if_neg (by omega),
    if_neg (by omega), if_neg (by omega), if_pos (by omega), Nat.add_sub_cancel]
  simp only [hzero, hlast]
  rfl

variable {bits low high : Nat}

theorem scan_last (hn : n < 64) (hlow : low ≤ n + 0x80) (hhigh : n + 0x80 ≤ high) :
    scan ⟨1, bits, low, high⟩ (UInt8.ofNat (n + 0x80) :: rest) =
      some (Char.ofNat (bits * 64 + n)) :: scan start rest := by
  rw [scan, step]
  have hbyte : n + 0x80 < 256 := by omega
  simp only [UInt8.toNat_ofNat_of_lt' hbyte, if_pos (And.intro hlow hhigh),
    Nat.add_sub_cancel]
  rfl

theorem scan_next {missing : Nat} (hn : n < 64) (hlow : low ≤ n + 0x80)
    (hhigh : n + 0x80 ≤ high) :
    scan ⟨missing + 2, bits, low, high⟩ (UInt8.ofNat (n + 0x80) :: rest) =
      scan ⟨missing + 1, bits * 64 + n, 0x80, 0xBF⟩ rest := by
  rw [scan, step]
  have hbyte : n + 0x80 < 256 := by omega
  simp only [UInt8.toNat_ofNat_of_lt' hbyte, if_pos (And.intro hlow hhigh),
    Nat.add_sub_cancel, if_neg (Nat.succ_ne_zero missing)]
  rfl

end Bytes

/-! ## Characters -/

/-- **One character.**  The bytes of a character are read as that character. -/
@[simp] theorem scan_utf8EncodeChar (c : Char) (rest : List UInt8) :
    scan start (String.utf8EncodeChar c ++ rest) = some c :: scan start rest := by
  have hvalid := toNat_isValidChar c
  have hchar : Char.ofNat c.toNat = c := Char.ofNat_toNat c
  have hval : c.val.toNat = c.toNat := rfl
  rw [String.utf8EncodeChar, hval]
  generalize c.toNat = n at hvalid hchar
  split_ifs with hone htwo hthree
  · rw [List.singleton_append, scan_one rest (by omega), hchar]
  · have hbits : n / 64 % 32 * 64 + n % 64 = n := by omega
    rw [List.cons_append, List.singleton_append, scan_lead_two _ (by omega) (by omega),
      scan_last rest (by omega) (by omega) (by omega), hbits, hchar]
  · have hbits : (n / 4096 % 16 * 64 + n / 64 % 64) * 64 + n % 64 = n := by omega
    rw [List.cons_append, List.cons_append, List.singleton_append,
      scan_lead_three _ (by omega), scan_next _ (by omega) (by split_ifs <;> omega)
        (by split_ifs <;> omega), scan_last rest (by omega) (by omega) (by omega), hbits, hchar]
  · have hbits : ((n / 262144 % 8 * 64 + n / 4096 % 64) * 64 + n / 64 % 64) * 64 + n % 64 = n := by
      omega
    rw [List.cons_append, List.cons_append, List.cons_append, List.singleton_append,
      scan_lead_four _ (by omega), scan_next _ (by omega) (by split_ifs <;> omega)
        (by split_ifs <;> omega), scan_next _ (by omega) (by omega) (by omega),
      scan_last rest (by omega) (by omega) (by omega), hbits, hchar]

/-- **Texts.**  The bytes of a text are read as that text, whatever stands behind
them. -/
@[simp] theorem scan_encode_append (s : List Char) (rest : List UInt8) :
    scan start (encode s ++ rest) = s.map some ++ scan start rest := by
  induction s with
  | nil => rfl
  | cons c s ih =>
      have hcons : encode (c :: s) = String.utf8EncodeChar c ++ encode s := rfl
      simp [hcons, ih]

@[simp] theorem scan_encode (s : List Char) : scan start (encode s) = s.map some := by
  have happend := scan_encode_append s []
  rwa [List.append_nil, scan, finish, start, if_pos rfl, List.append_nil] at happend

theorem encode_injective {s t : List Char} (h : encode s = encode t) : s = t := by
  have hscan : s.map some = t.map some := by rw [← scan_encode, ← scan_encode, h]
  exact (List.map_inj_right fun _ _ hsome => Option.some.inj hsome).mp hscan

@[simp] theorem bytes_inj {a b : String} : bytes a = bytes b ↔ a = b :=
  ⟨fun h => String.toList_inj.mp (encode_injective h), congrArg bytes⟩

@[simp] theorem bytes_append (a b : String) : bytes (a ++ b) = bytes a ++ bytes b := by
  simp [bytes, encode]

/-! ## Order -/

section Order

variable {c d : Char} {s t : List Char}

/-- Bytes are compared from the first one on. -/
theorem ofNat_byte_cons_lt {m n : Nat} {xs ys : List UInt8} (hn : n < 256) (hle : m ≤ n)
    (hrest : m = n → xs < ys) : UInt8.ofNat m :: xs < UInt8.ofNat n :: ys := by
  rw [List.cons_lt_cons_iff]
  rcases Nat.lt_or_eq_of_le hle with hlt | rfl
  · refine Or.inl ?_
    have hm : m < 256 := Nat.lt_trans hlt hn
    rw [UInt8.lt_iff_toNat_lt, UInt8.toNat_ofNat_of_lt' hm, UInt8.toNat_ofNat_of_lt' hn]
    exact hlt
  · exact Or.inr ⟨rfl, hrest rfl⟩

/-- The lesser of two characters has the lesser bytes, whatever stands behind them. -/
theorem utf8EncodeChar_append_lt (h : c < d) (xs ys : List UInt8) :
    String.utf8EncodeChar c ++ xs < String.utf8EncodeChar d ++ ys := by
  have hlt : c.val.toNat < d.val.toNat := h
  have hvalid := toNat_isValidChar d
  have hval : d.val.toNat = d.toNat := rfl
  rw [String.utf8EncodeChar, String.utf8EncodeChar]
  generalize c.val.toNat = m at hlt ⊢
  rw [hval] at hlt ⊢
  generalize d.toNat = n at hlt hvalid ⊢
  -- characters of different lengths differ in the first byte
  split_ifs <;> simp only [List.cons_append, List.nil_append] <;>
    first
      | omega
      | exact ofNat_byte_cons_lt (by omega) (by omega) fun hlead => absurd hlead (by omega)
      | refine ofNat_byte_cons_lt (by omega) (by omega) fun hlead => ?_
  · exact ofNat_byte_cons_lt (by omega) (by omega) fun hlast => absurd hlast (by omega)
  · refine ofNat_byte_cons_lt (by omega) (by omega) fun hnext => ?_
    exact ofNat_byte_cons_lt (by omega) (by omega) fun hlast => absurd hlast (by omega)
  · refine ofNat_byte_cons_lt (by omega) (by omega) fun hnext => ?_
    refine ofNat_byte_cons_lt (by omega) (by omega) fun hthird => ?_
    exact ofNat_byte_cons_lt (by omega) (by omega) fun hlast => absurd hlast (by omega)

/-- **Order.**  Texts are in the order of their bytes. -/
theorem encode_lt (h : s < t) : encode s < encode t := by
  have hcons (c : Char) (s : List Char) :
      encode (c :: s) = String.utf8EncodeChar c ++ encode s := rfl
  induction h with
  | @nil c t =>
      rw [hcons]
      obtain ⟨b, bytes, hbytes⟩ := List.exists_cons_of_ne_nil String.utf8EncodeChar_ne_nil
      rw [hbytes, List.cons_append]
      exact List.nil_lt_cons b _
  | @cons c s t _ ih =>
      rw [hcons, hcons]
      exact List.append_left_lt ih
  | @rel c s d t hlt =>
      rw [hcons, hcons]
      exact utf8EncodeChar_append_lt hlt _ _

theorem bytes_lt {a b : String} (h : a < b) : bytes a < bytes b := encode_lt h

end Order

end Folio.Text.Utf8
