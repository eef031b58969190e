import Folio.Proofs.Text.Search
import Folio.Url.Host
import Mathlib.Data.Nat.Digits.Defs

/-!
# Folio.Proofs.Url.Host

Hosts as reading leaves them.  A host is either an address in brackets, written
in hexadecimal digits and colons, or holds none of the characters that end a host
(`isHostText_of_host`).
-/

namespace Folio.Url

open Folio.Text

variable {s name : List Char} {c : Char}

/-- A host that can stand in a URL: in brackets, or without a character that a name may not
hold. -/
def IsHostText (s : List Char) : Prop :=
  (∃ inside, s = '[' :: (inside ++ [']']) ∧ ∀ c ∈ inside, c ∈ "0123456789abcdef:".toList) ∨
    s ≠ [] ∧ ∀ c ∈ s, isForbiddenAscii c = false

/-! ## Addresses -/

/-- What a number is written with. -/
theorem mem_of_mem_toDigits {base n : Nat} {digits : List Char} (hbase : 1 < base)
    (hdigits : ∀ n < base, Nat.digitChar n ∈ digits) (h : c ∈ Nat.toDigits base n) :
    c ∈ digits := by
  induction n using Nat.strongRecOn with
  | ind n ih =>
      by_cases hlt : n < base
      · rw [Nat.toDigits_of_lt_base hlt] at h
        rw [List.mem_singleton.mp h]
        exact hdigits n hlt
      · have hle := Nat.le_of_not_lt hlt
        rw [Nat.toDigits_of_base_le hbase hle] at h
        rcases List.mem_append.mp h with h | h
        · exact ih (n / base) (Nat.div_lt_self (by omega) hbase) h
        · rw [List.mem_singleton.mp h]
          exact hdigits _ (Nat.mod_lt n (by omega))

/-- An address of version 6 stands in brackets. -/
theorem exists_ipv6Text_eq (pieces : List Nat) : ∃ inside,
    ipv6Text pieces = '[' :: (inside ++ [']']) ∧ ∀ c ∈ inside, c ∈ "0123456789abcdef:".toList := by
  have hwrite (ns : List Nat) :
      ∀ c ∈ [':'].intercalate (ns.map fun n => Nat.toDigits 16 n),
        c ∈ "0123456789abcdef:".toList := by
    intro c hc
    rcases mem_of_mem_intercalate hc with hc | ⟨digits, hdigits, hc⟩
    · rw [List.mem_singleton.mp hc]
      decide
    · obtain ⟨n, -, rfl⟩ := List.mem_map.mp hdigits
      exact mem_of_mem_toDigits (by decide) (by decide) hc
  rw [ipv6Text]
  split
  · exact ⟨_, rfl, hwrite pieces⟩
  · refine ⟨_, rfl, ?_⟩
    rw [List.forall_mem_append, List.forall_mem_append]
    exact ⟨⟨hwrite _, by decide⟩, hwrite _⟩

theorem isHostText_ipv6Text (pieces : List Nat) : IsHostText (ipv6Text pieces) :=
  Or.inl (exists_ipv6Text_eq pieces)

theorem isHostText_ipv4? (h : ipv4? s = some name) : IsHostText name := by
  simp only [ipv4?, Option.bind_eq_bind, Option.bind_eq_some_iff] at h
  obtain ⟨-, -, numbers, -, last, -, -, -, h⟩ := h
  have hplain : ∀ c ∈ "0123456789.".toList, isForbiddenAscii c = false := by decide
  rw [← Option.some.inj h]
  refine Or.inr ⟨fun hnil => ?_, fun c hc => hplain c ?_⟩
  · rw [List.map_cons, List.map_cons, List.intercalate_cons_cons] at hnil
    simp at hnil
  · rcases mem_of_mem_intercalate hc with hc | ⟨digits, hdigits, hc⟩
    · rw [List.mem_singleton.mp hc]
      decide
    · obtain ⟨n, -, rfl⟩ := List.mem_map.mp hdigits
      exact mem_of_mem_toDigits (by decide) (by decide) hc

/-! ## Hosts -/

theorem isForbiddenAscii_of_nameToAscii? {bytes : List UInt8} (h : nameToAscii? bytes = some name) :
    ∀ c ∈ name, isForbiddenAscii c = false := by
  simp only [nameToAscii?, Option.bind_eq_bind, Option.bind_eq_some_iff] at h
  obtain ⟨text, -, exchanged, -, labels, -, h⟩ := h
  split at h
  · contradiction
  · next hnone =>
      rw [← Option.some.inj h]
      exact fun c hc => Bool.eq_false_iff.mpr fun hforbidden =>
        hnone (List.any_eq_true.mpr ⟨c, hc, hforbidden⟩)

/-- **Hosts.**  What is read as a host can stand in a URL. -/
theorem isHostText_of_host (h : host s = .ok name) : IsHostText name := by
  rw [host.eq_def] at h
  split at h
  · split at h
    · rw [← Except.ok.inj h]
      exact isHostText_ipv6Text _
    · contradiction
  · split at h
    · contradiction
    · next ascii hname =>
        split at h
        · contradiction
        · next hne =>
            split at h
            · split at h
              · next address haddress =>
                  rw [← Except.ok.inj h]
                  exact isHostText_ipv4? haddress
              · contradiction
            · rw [← Except.ok.inj h]
              exact Or.inr ⟨fun hnil => hne (List.isEmpty_iff.mpr hnil),
                isForbiddenAscii_of_nameToAscii? hname⟩

end Folio.Url
