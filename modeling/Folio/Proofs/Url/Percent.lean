import Folio.Proofs.Text.Search
import Folio.Proofs.Text.Utf8
import Folio.Text.Blank
import Folio.Url.Percent

/-!
# Folio.Proofs.Url.Percent

Percent-encoding.  What has been encoded consists of kept characters
(`keep_of_mem_encodeText`), and a text of kept characters is encoded as itself
(`encodeText_of_keep`), so that encoding twice is encoding once.
-/

namespace Folio.Url

open Folio.Text

variable {keep : Char → Bool} {s t : List Char} {c : Char}

/-- The kept characters are printable ASCII characters, those of an encoded byte among
them. -/
structure KeepsEscapes (keep : Char → Bool) : Prop where
  printable : ∀ c, keep c = true → isPrintable c = true
  percent : keep '%' = true
  digit : ∀ n < 16, keep (hexDigitUpper n) = true

theorem keepsEscapes_fragment : KeepsEscapes keptInFragment where
  printable _ h := (Bool.and_eq_true_iff.mp h).1
  percent := rfl
  digit := by decide

theorem keepsEscapes_path : KeepsEscapes keptInPath where
  printable c h := keepsEscapes_fragment.printable c (Bool.and_eq_true_iff.mp h).1
  percent := rfl
  digit := by decide

theorem keepsEscapes_credentials : KeepsEscapes keptInCredentials where
  printable c h := keepsEscapes_path.printable c (Bool.and_eq_true_iff.mp h).1
  percent := rfl
  digit := by decide

theorem keepsEscapes_query (special : Bool) : KeepsEscapes (keptInQuery special) where
  printable c h := (Bool.and_eq_true_iff.mp h).1
  percent := by cases special <;> rfl
  digit := by cases special <;> decide

theorem lt_of_isPrintable (h : isPrintable c = true) (hblank : c ≠ ' ') : 0x20 < c.toNat := by
  rw [isPrintable, Bool.and_eq_true, decide_eq_true_eq, decide_eq_true_eq] at h
  refine Nat.lt_of_le_of_ne h.1 fun hsame => hblank ?_
  rw [← Char.ofNat_toNat c, ← hsame]

theorem isBlank_of_isPrintable (h : isPrintable c = true ∧ c ≠ ' ') : isBlank c = false := by
  have hlow := lt_of_isPrintable h.1 h.2
  have hhigh := (Bool.and_eq_true_iff.mp h.1).2
  rw [decide_eq_true_eq] at hhigh
  simp only [isBlank, Bool.or_eq_false_iff, Bool.and_eq_false_iff, decide_eq_false_iff_not,
    beq_eq_false_iff_ne]
  omega

@[simp] theorem encodeText_append (keep : Char → Bool) (s t : List Char) :
    encodeText keep (s ++ t) = encodeText keep s ++ encodeText keep t := by
  simp [encodeText, Utf8.encode, encodeBytes]

/-- A kept character stands for itself. -/
theorem encodeText_singleton (h : KeepsEscapes keep) (hc : keep c = true) :
    encodeText keep [c] = [c] := by
  have hprintable := h.printable c hc
  rw [isPrintable, Bool.and_eq_true, decide_eq_true_eq, decide_eq_true_eq] at hprintable
  have hone : c.val.toNat ≤ 127 := Nat.le_trans hprintable.2 (by decide)
  have hbytes : Utf8.encode [c] = [UInt8.ofNat c.toNat] := by
    rw [Utf8.encode, List.flatMap_singleton, String.utf8EncodeChar]
    exact if_pos hone
  have hvalue : (UInt8.ofNat c.toNat).toNat = c.toNat :=
    Nat.mod_eq_of_lt (Nat.lt_of_le_of_lt hprintable.2 (by decide))
  have hascii : UInt8.ofNat c.toNat < 128 := by
    rw [UInt8.lt_iff_toNat_lt, hvalue]
    exact Nat.lt_of_le_of_lt hprintable.2 (by decide)
  rw [encodeText, hbytes, encodeBytes, List.flatMap_singleton, hvalue, Char.ofNat_toNat, hc]
  simp [hascii]

/-- A text is encoded as itself when each of its characters is. -/
theorem encodeText_eq_self (hs : ∀ c ∈ s, encodeText keep [c] = [c]) : encodeText keep s = s := by
  induction s with
  | nil => rfl
  | cons c s ih =>
      obtain ⟨hc, hs⟩ := List.forall_mem_cons.mp hs
      rw [← List.singleton_append, encodeText_append, hc, ih hs]

/-- **Kept text.**  A text of kept characters is encoded as itself. -/
theorem encodeText_of_keep (h : KeepsEscapes keep) (hs : ∀ c ∈ s, keep c = true) :
    encodeText keep s = s :=
  encodeText_eq_self fun c hc => encodeText_singleton h (hs c hc)

/-- **Encoded text.**  Encoding leaves none but kept characters. -/
theorem keep_of_mem_encodeText (h : KeepsEscapes keep) (hc : c ∈ encodeText keep s) :
    keep c = true := by
  obtain ⟨b, -, hc⟩ := List.mem_flatMap.mp hc
  split at hc
  · next hkeep =>
      rw [List.mem_singleton.mp hc]
      exact (Bool.and_eq_true_iff.mp hkeep).2
  · have hlow : b.toNat % 16 < 16 := Nat.mod_lt _ (by decide)
    have hhigh : b.toNat / 16 < 16 := Nat.div_lt_of_lt_mul b.toNat_lt
    rcases List.mem_cons.mp hc with rfl | hc
    · exact h.percent
    · rcases List.mem_cons.mp hc with rfl | hc
      · exact h.digit _ hhigh
      · rw [List.mem_singleton.mp hc]
        exact h.digit _ hlow

/-- The bytes of a character beyond ASCII are beyond ASCII. -/
theorem eq_of_mem_utf8EncodeChar {b : UInt8} (h : b ∈ String.utf8EncodeChar c)
    (hb : b.toNat < 128) : b.toNat = c.toNat := by
  have hval : c.val.toNat = c.toNat := rfl
  have hbeyond {n : Nat} (hleast : 128 ≤ n) (hmost : n < 256) : b ≠ UInt8.ofNat n := by
    rintro rfl
    rw [UInt8.toNat_ofNat_of_lt' hmost] at hb
    omega
  rw [String.utf8EncodeChar, hval] at h
  split_ifs at h with hone htwo hthree <;>
    simp only [List.mem_cons, List.not_mem_nil, or_false] at h
  · have hbyte : c.toNat < 256 := by omega
    rw [h]
    exact UInt8.toNat_ofNat_of_lt' hbyte
  · rcases h with h | h <;> exact absurd h (hbeyond (by omega) (by omega))
  · rcases h with h | h | h <;> exact absurd h (hbeyond (by omega) (by omega))
  · rcases h with h | h | h | h <;> exact absurd h (hbeyond (by omega) (by omega))

/-- A character is encoded as itself or with the characters of escapes. -/
theorem mem_encodeText_singleton {d : Char} (h : d ∈ encodeText keep [c]) :
    d = c ∨ d ∈ "%0123456789ABCDEF".toList := by
  obtain ⟨b, hb, hd⟩ := List.mem_flatMap.mp h
  split at hd
  · next hkeep =>
      rw [Bool.and_eq_true, decide_eq_true_eq, UInt8.lt_iff_toNat_lt] at hkeep
      rw [Utf8.encode, List.flatMap_singleton] at hb
      rw [List.mem_singleton.mp hd, eq_of_mem_utf8EncodeChar hb hkeep.1, Char.ofNat_toNat]
      exact Or.inl rfl
  · have hdigit : ∀ n < 16, hexDigitUpper n ∈ "%0123456789ABCDEF".toList := by decide
    have hlow : b.toNat % 16 < 16 := Nat.mod_lt _ (by decide)
    have hhigh : b.toNat / 16 < 16 := Nat.div_lt_of_lt_mul b.toNat_lt
    rcases List.mem_cons.mp hd with rfl | hd
    · exact Or.inr (by decide)
    · rcases List.mem_cons.mp hd with rfl | hd
      · exact Or.inr (hdigit _ hhigh)
      · rw [List.mem_singleton.mp hd]
        exact Or.inr (hdigit _ hlow)

end Folio.Url
