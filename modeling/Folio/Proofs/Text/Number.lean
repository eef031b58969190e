import Folio.Text.Ascii
import Folio.Text.Blank
import Mathlib.Data.Nat.Digits.Defs

/-!
# Folio.Proofs.Text.Number

Reading numbers as they are written.  A natural number is written in digits
and an integer with a minus sign where it is negative; both are read as
themselves (`natural?_toString`, `integer?_toString`), and within bounds by the
readers that have some.
-/

namespace Folio.Text

theorem toList_toString_nat (n : Nat) : (toString n).toList = Nat.toDigits 10 n := by
  rw [Nat.toString_eq_ofList_toDigits, String.toList_ofList]

/-- Decimal digits have the value of the number that they are written for. -/
@[simp] theorem decimalValue_toDigits (n : Nat) : decimalValue (Nat.toDigits 10 n) = n := by
  have hsame : (fun (value : Nat) c => value * 10 + digitValue c) =
      fun value c => 10 * value + (c.toNat - '0'.toNat) := by
    funext value c
    rw [Nat.mul_comm, digitValue]
    rfl
  rw [decimalValue, hsame]
  exact Nat.ofDigitChars_ten_toDigits

theorem isAsciiDigit_of_isDigit {c : Char} (h : c.isDigit = true) : isAsciiDigit c = true := by
  rw [Char.isDigit, Bool.and_eq_true, decide_eq_true_eq, decide_eq_true_eq] at h
  rw [isAsciiDigit, Bool.and_eq_true, decide_eq_true_eq, decide_eq_true_eq]
  exact h

/-- A natural number is written in digits. -/
theorem isAsciiDigit_of_mem_toString {n : Nat} {c : Char} (h : c ∈ (toString n).toList) :
    isAsciiDigit c = true := by
  rw [toList_toString_nat] at h
  exact isAsciiDigit_of_isDigit (Nat.isDigit_of_mem_toDigits (by decide) (by decide) h)

@[simp] theorem toList_toString_ne_nil (n : Nat) : (toString n).toList ≠ [] := by
  rw [toList_toString_nat]
  exact Nat.toDigits_ne_nil

/-- A natural number begins with a digit. -/
theorem exists_toString_eq_cons (n : Nat) :
    ∃ c rest, (toString n).toList = c :: rest ∧ isAsciiDigit c = true := by
  obtain ⟨c, rest, hcons⟩ := List.exists_cons_of_ne_nil (toList_toString_ne_nil n)
  exact ⟨c, rest, hcons, isAsciiDigit_of_mem_toString (hcons ▸ List.mem_cons_self)⟩

/-- A natural number is read from its numeral. -/
@[simp] theorem natural?_toString (n : Nat) : natural? (toString n).toList = some n := by
  have hdigits : (toString n).toList.all isAsciiDigit = true :=
    List.all_eq_true.mpr fun c hc => isAsciiDigit_of_mem_toString hc
  rw [natural?, if_pos ⟨toList_toString_ne_nil n, hdigits⟩, toList_toString_nat,
    decimalValue_toDigits]

/-- So it is up to a bound that it does not exceed. -/
theorem naturalUpTo?_toString {n most : Nat} (h : n ≤ most) :
    naturalUpTo? most (toString n).toList = some n := by
  obtain ⟨c, rest, hcons, hdigit⟩ := exists_toString_eq_cons n
  have hplus : c ≠ '+' := by
    rintro rfl
    contradiction
  have hread : naturalUpTo? most (toString n).toList =
      (natural? (toString n).toList).filter (· ≤ most) := by
    rw [hcons, naturalUpTo?]
    exact fun _ hsign => hplus (List.cons.inj hsign).1
  rw [hread, natural?_toString, Option.filter_some, if_pos (by simpa using h)]

theorem toList_toString_ofNat (n : Nat) : (toString (n : Int)).toList = (toString n).toList := rfl

theorem toList_toString_negSucc (n : Nat) :
    (toString (Int.negSucc n)).toList = '-' :: (toString (n + 1)).toList := by
  have hrepr : toString (Int.negSucc n) = "-" ++ toString (n + 1) := rfl
  rw [hrepr, String.toList_append]
  rfl

/-- An integer is read from its numeral. -/
@[simp] theorem integer?_toString (n : Int) : integer? (toString n).toList = some n := by
  cases n with
  | ofNat n =>
      obtain ⟨c, rest, hcons, hdigit⟩ := exists_toString_eq_cons n
      have hsign (sign : Char) (hsign : isAsciiDigit sign = false) : c ≠ sign := by
        rintro rfl
        rw [hdigit] at hsign
        contradiction
      have hread : integer? (toString n).toList = (natural? (toString n).toList).map Int.ofNat := by
        rw [hcons]
        exact integer?.eq_3 _ (fun _ h => hsign '-' rfl (List.cons.inj h).1)
          fun _ h => hsign '+' rfl (List.cons.inj h).1
      rw [Int.ofNat_eq_natCast, toList_toString_ofNat, hread, natural?_toString]
      rfl
  | negSucc n =>
      rw [toList_toString_negSucc, integer?, natural?_toString]
      rfl

/-- Between two bounds it is read exactly if it lies there. -/
theorem integerWithin?_toString (least most n : Int) :
    integerWithin? least most (toString n).toList =
      if least ≤ n ∧ n ≤ most then some n else none := by
  rw [integerWithin?, integer?_toString, Option.filter_some]
  simp only [Bool.and_eq_true, decide_eq_true_eq]

/-- An integer is written in digits that a minus sign may precede. -/
theorem eq_minus_or_isAsciiDigit_of_mem {n : Int} {c : Char} (h : c ∈ (toString n).toList) :
    c = '-' ∨ isAsciiDigit c = true := by
  cases n with
  | ofNat n => exact Or.inr (isAsciiDigit_of_mem_toString h)
  | negSucc n =>
      rw [toList_toString_negSucc] at h
      rcases List.mem_cons.mp h with rfl | h
      · exact Or.inl rfl
      · exact Or.inr (isAsciiDigit_of_mem_toString h)

/-- An integer is written in digits and a minus sign. -/
theorem not_mem_toString_int {c : Char} (hminus : c ≠ '-') (hdigit : isAsciiDigit c = false)
    (n : Int) : c ∉ (toString n).toList := by
  intro hmem
  rcases eq_minus_or_isAsciiDigit_of_mem hmem with hc | hc
  · exact hminus hc
  · rw [hdigit] at hc
    contradiction

theorem isBlank_eq_false_of_isAsciiDigit {c : Char} (h : isAsciiDigit c = true) :
    isBlank c = false := by
  rw [isAsciiDigit, Bool.and_eq_true, decide_eq_true_eq, decide_eq_true_eq] at h
  have hlow : 48 ≤ c.toNat := h.1
  have hhigh : c.toNat ≤ 57 := h.2
  simp only [isBlank, Bool.or_eq_false_iff, Bool.and_eq_false_iff, decide_eq_false_iff_not,
    beq_eq_false_iff_ne]
  omega

/-- Digits are no blanks, and neither is the minus sign. -/
theorem isBlank_eq_false_of_mem_toString_int {n : Int} {c : Char}
    (h : c ∈ (toString n).toList) : isBlank c = false := by
  rcases eq_minus_or_isAsciiDigit_of_mem h with rfl | hdigit
  · rfl
  · exact isBlank_eq_false_of_isAsciiDigit hdigit

/-- An integer begins with a digit or the sign. -/
theorem exists_toString_int_eq_cons (n : Int) :
    ∃ c rest, (toString n).toList = c :: rest ∧ (c = '-' ∨ isAsciiDigit c = true) := by
  cases n with
  | ofNat n =>
      obtain ⟨c, rest, hcons, hdigit⟩ := exists_toString_eq_cons n
      exact ⟨c, rest, hcons, Or.inr hdigit⟩
  | negSucc n => exact ⟨'-', _, toList_toString_negSucc n, Or.inl rfl⟩

/-- What begins with anything but a digit or a sign is no number. -/
theorem integerWithin?_eq_none {c : Char} (hdigit : isAsciiDigit c = false) (hminus : c ≠ '-')
    (hplus : c ≠ '+') (least most : Int) (s : List Char) :
    integerWithin? least most (c :: s) = none := by
  have hnatural : natural? (c :: s) = none :=
    if_neg fun h => by simp [List.all_cons, hdigit] at h
  have hread : integer? (c :: s) = (natural? (c :: s)).map Int.ofNat :=
    integer?.eq_3 _ (fun _ h => hminus (List.cons.inj h).1) fun _ h => hplus (List.cons.inj h).1
  rw [integerWithin?, hread, hnatural]
  rfl

end Folio.Text
