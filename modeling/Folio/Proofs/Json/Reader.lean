import Folio.Json.Reader
import Mathlib.Data.List.Infix
import Mathlib.Data.List.TakeWhile

/-!
# Folio.Proofs.Json.Reader

What a JSON text begins with.  Blanks in front of a value are passed over
(`parse?_append_blanks`), and the text of an array or an object begins with the
bracket that opens it (`exists_opening_of_parse?`): the first token of any
other value is the whole of it.
-/

namespace Folio.Json

open Folio.Text

/-! ## Scalars -/

/-- An array or an object. -/
def isContainer : Json → Bool
  | .array _ => true
  | .object _ => true
  | _ => false

/-- A token that is a whole value. -/
def Token.isScalar : Token → Bool
  | .null => true
  | .bool _ => true
  | .number _ => true
  | .string _ => true
  | _ => false

theorem Token.isScalar_of_wordToken? {letters : List Char} {t : Token}
    (h : wordToken? letters = some t) : t.isScalar = true := by
  rw [wordToken?] at h
  split at h
  · cases h; rfl
  · split at h
    · cases h; rfl
    · split at h
      · cases h; rfl
      · contradiction

/-- What begins with a scalar token is no array and no object. -/
theorem isContainer_of_ofTokens? {t : Token} {tokens : List Token} {form : Form} {v : Json}
    {depth : Nat} (ht : t.isScalar = true) (hform : Form.ofTokens? (t :: tokens) = some form)
    (hv : Form.value? depth form = some v) : v.isContainer = false := by
  have hnothing {whole : Form} (h : Form.run [] (.nothing whole) tokens = some form) :
      whole = form := by
    cases tokens with
    | nil => exact Option.some.inj h
    | cons t tokens => contradiction
  cases t with
  | null =>
      obtain rfl := hnothing hform
      cases hv
      rfl
  | bool b =>
      obtain rfl := hnothing hform
      cases hv
      rfl
  | number n =>
      obtain rfl := hnothing hform
      obtain ⟨value, -, rfl⟩ := Option.map_eq_some_iff.mp hv
      rfl
  | string s =>
      obtain rfl := hnothing hform
      obtain ⟨text, -, rfl⟩ := Option.map_eq_some_iff.mp hv
      rfl
  | openArray => contradiction
  | closeArray => contradiction
  | openObject => contradiction
  | closeObject => contradiction
  | colon => contradiction
  | comma => contradiction

/-! ## The scan -/

theorem suffix_of_scanBlank {done later : List Token} {c : Char} {within : Within}
    (h : scanBlank done c = some (later, within)) : done <:+ later := by
  simp only [scanBlank] at h
  split at h
  · cases h
    exact List.suffix_refl _
  · split at h
    · cases h
      exact List.suffix_refl _
    · split at h
      · cases h
        exact List.suffix_refl _
      · split at h
        · cases h
          exact List.suffix_refl _
        · obtain ⟨t, -, heq⟩ := Option.map_eq_some_iff.mp h
          cases heq
          exact List.suffix_cons t done

theorem suffix_of_scanChar {done later : List Token} {c : Char} {within next : Within}
    (h : scanChar done c within = some (later, next)) : done <:+ later := by
  cases within with
  | blank => exact suffix_of_scanBlank h
  | word letters =>
      simp only [scanChar] at h
      split at h
      · cases h
        exact List.suffix_refl _
      · obtain ⟨t, -, h⟩ := Option.bind_eq_some_iff.mp h
        exact (List.suffix_cons t done).trans (suffix_of_scanBlank h)
  | numeral chars =>
      simp only [scanChar] at h
      split at h
      · cases h
        exact List.suffix_refl _
      · obtain ⟨n, -, h⟩ := Option.bind_eq_some_iff.mp h
        exact (List.suffix_cons _ done).trans (suffix_of_scanBlank h)
  | string pieces =>
      simp only [scanChar] at h
      split at h
      · cases h
        exact List.suffix_cons _ done
      · split at h
        · cases h
          exact List.suffix_refl _
        · split at h
          · contradiction
          · cases h
            exact List.suffix_refl _
  | escape pieces =>
      simp only [scanChar] at h
      split at h
      · cases h
        exact List.suffix_refl _
      · obtain ⟨x, -, heq⟩ := Option.map_eq_some_iff.mp h
        cases heq
        exact List.suffix_refl _
  | unit pieces missing value =>
      simp only [scanChar] at h
      obtain ⟨digit, -, h⟩ := Option.bind_eq_some_iff.mp h
      split at h
      · cases h
        exact List.suffix_refl _
      · cases h
        exact List.suffix_refl _

/-- Tokens that have been found stay. -/
theorem reverse_isPrefix_of_scan {done tokens : List Token} {within : Within} {s : List Char}
    (h : scan done within s = some tokens) : done.reverse <+: tokens := by
  induction s generalizing done within with
  | nil =>
      cases within with
      | blank =>
          obtain rfl := Option.some.inj h
          exact List.prefix_refl _
      | word letters =>
          obtain ⟨t, -, h⟩ := Option.bind_eq_some_iff.mp h
          cases h
          rw [List.reverse_cons]
          exact List.prefix_append _ _
      | numeral chars =>
          obtain ⟨n, -, h⟩ := Option.bind_eq_some_iff.mp h
          cases h
          rw [List.reverse_cons]
          exact List.prefix_append _ _
      | string pieces => contradiction
      | escape pieces => contradiction
      | unit pieces missing value => contradiction
  | cons c s ih =>
      rw [scan] at h
      split at h
      · next later next hstep =>
        exact (List.reverse_prefix.mpr (suffix_of_scanChar hstep)).trans (ih h)
      · contradiction

/-- Inside a value the scan goes on, or finds a scalar. -/
theorem scanChar_of_ne_blank {later : List Token} {c : Char} {within next : Within}
    (hwithin : within ≠ .blank) (h : scanChar [] c within = some (later, next)) :
    (later = [] ∧ next ≠ .blank) ∨ ∃ t, t.isScalar = true ∧ [t] <:+ later := by
  cases within with
  | blank => contradiction
  | word letters =>
      simp only [scanChar] at h
      split at h
      · cases h
        exact Or.inl ⟨rfl, nofun⟩
      · obtain ⟨t, ht, h⟩ := Option.bind_eq_some_iff.mp h
        exact Or.inr ⟨t, Token.isScalar_of_wordToken? ht, suffix_of_scanBlank h⟩
  | numeral chars =>
      simp only [scanChar] at h
      split at h
      · cases h
        exact Or.inl ⟨rfl, nofun⟩
      · obtain ⟨n, -, h⟩ := Option.bind_eq_some_iff.mp h
        exact Or.inr ⟨.number n, rfl, suffix_of_scanBlank h⟩
  | string pieces =>
      simp only [scanChar] at h
      split at h
      · cases h
        exact Or.inr ⟨_, rfl, List.suffix_refl _⟩
      · split at h
        · cases h
          exact Or.inl ⟨rfl, nofun⟩
        · split at h
          · contradiction
          · cases h
            exact Or.inl ⟨rfl, nofun⟩
  | escape pieces =>
      simp only [scanChar] at h
      split at h
      · cases h
        exact Or.inl ⟨rfl, nofun⟩
      · obtain ⟨x, -, heq⟩ := Option.map_eq_some_iff.mp h
        cases heq
        exact Or.inl ⟨rfl, nofun⟩
  | unit pieces missing value =>
      simp only [scanChar] at h
      obtain ⟨digit, -, h⟩ := Option.bind_eq_some_iff.mp h
      split at h
      · cases h
        exact Or.inl ⟨rfl, nofun⟩
      · cases h
        exact Or.inl ⟨rfl, nofun⟩

/-- A scan that begins inside a value finds a scalar first. -/
theorem exists_scalar_of_scan {tokens : List Token} {within : Within} {s : List Char}
    (hwithin : within ≠ .blank) (h : scan [] within s = some tokens) :
    ∃ t rest, t.isScalar = true ∧ tokens = t :: rest := by
  induction s generalizing within with
  | nil =>
      cases within with
      | blank => contradiction
      | word letters =>
          obtain ⟨t, ht, h⟩ := Option.bind_eq_some_iff.mp h
          cases h
          exact ⟨t, [], Token.isScalar_of_wordToken? ht, rfl⟩
      | numeral chars =>
          obtain ⟨n, -, h⟩ := Option.bind_eq_some_iff.mp h
          cases h
          exact ⟨.number n, [], rfl, rfl⟩
      | string pieces => contradiction
      | escape pieces => contradiction
      | unit pieces missing value => contradiction
  | cons c s ih =>
      rw [scan] at h
      split at h
      · next later next hstep =>
        rcases scanChar_of_ne_blank hwithin hstep with ⟨rfl, hnext⟩ | ⟨t, ht, hlater⟩
        · exact ih hnext h
        · have hfirst : [t] <+: later.reverse := List.reverse_prefix.mpr hlater
          obtain ⟨rest, hrest⟩ := hfirst.trans (reverse_isPrefix_of_scan h)
          exact ⟨t, rest, ht, hrest.symm⟩
      · contradiction

/-! ## Openings -/

/-- A blank of a JSON text. -/
def isSpace (c : Char) : Bool := c == ' ' || c == '\n' || c == '\r' || c == '\t'

theorem scan_blanks_append {blanks : List Char} (h : ∀ c ∈ blanks, isSpace c = true)
    (s : List Char) : scan [] .blank (blanks ++ s) = scan [] .blank s := by
  induction blanks with
  | nil => rfl
  | cons c blanks ih =>
      obtain ⟨hc, hblanks⟩ := List.forall_mem_cons.mp h
      have hblank : c = ' ' ∨ c = '\n' ∨ c = '\r' ∨ c = '\t' := by
        simpa [isSpace, or_assoc] using hc
      have hstep : scanChar [] c .blank = some ([], .blank) := if_pos hblank
      rw [List.cons_append, scan, hstep]
      exact ih hblanks

/-- Blanks in front of a value are passed over. -/
theorem parse?_append_blanks {blanks s : List Char} (h : ∀ c ∈ blanks, isSpace c = true) :
    parse? (String.ofList (blanks ++ s)) = parse? (String.ofList s) := by
  simp only [parse?, Form.read?, tokens?, String.toList_ofList]
  rw [scan_blanks_append h]

/-- The bracket that a value which is no scalar begins with. -/
theorem opening_of_scan {c : Char} {s : List Char} {tokens : List Token} {form : Form}
    {v : Json} {depth : Nat} (hc : isSpace c = false) (h : scan [] .blank (c :: s) = some tokens)
    (hform : Form.ofTokens? tokens = some form) (hv : Form.value? depth form = some v)
    (hcontainer : v.isContainer = true) : c = '[' ∨ c = '\x7b' := by
  have hnotInside {within : Within} (hwithin : within ≠ .blank) :
      scan [] within s ≠ some tokens := by
    intro hscan
    obtain ⟨t, rest, ht, rfl⟩ := exists_scalar_of_scan hwithin hscan
    rw [isContainer_of_ofTokens? ht hform hv] at hcontainer
    contradiction
  have hblank : ¬(c = ' ' ∨ c = '\n' ∨ c = '\r' ∨ c = '\t') := by
    simpa [isSpace, and_assoc] using hc
  rw [scan] at h
  split at h
  · next later next hstep =>
    simp only [scanChar, scanBlank, if_neg hblank] at hstep
    split at hstep
    · cases hstep
      exact absurd h (hnotInside nofun)
    · split at hstep
      · cases hstep
        exact absurd h (hnotInside nofun)
      · split at hstep
        · cases hstep
          exact absurd h (hnotInside nofun)
        · obtain ⟨t, ht, heq⟩ := Option.map_eq_some_iff.mp hstep
          cases heq
          obtain ⟨rest, rfl⟩ := reverse_isPrefix_of_scan h
          unfold markToken? at ht
          split at ht
          · exact Or.inl rfl
          · cases ht
            contradiction
          · exact Or.inr rfl
          · cases ht
            contradiction
          · cases ht
            contradiction
          · cases ht
            contradiction
          · contradiction
  · contradiction

/-- **Openings.**  The text of an array or an object is blanks and what begins with
its bracket. -/
theorem exists_opening_of_parse? {s : String} {v : Json} (h : parse? s = some v)
    (hcontainer : v.isContainer = true) :
    ∃ blanks c rest, (∀ b ∈ blanks, isSpace b = true) ∧ (c = '[' ∨ c = '\x7b') ∧
      s.toList = blanks ++ c :: rest := by
  obtain ⟨form, hread, hv⟩ := Option.bind_eq_some_iff.mp h
  obtain ⟨tokens, htokens, hform⟩ := Option.bind_eq_some_iff.mp hread
  have hblanks : ∀ b ∈ s.toList.takeWhile isSpace, isSpace b = true :=
    fun b hb => List.mem_takeWhile_imp hb
  have hsplit : s.toList = s.toList.takeWhile isSpace ++ s.toList.dropWhile isSpace :=
    List.takeWhile_append_dropWhile.symm
  rw [tokens?, hsplit, scan_blanks_append hblanks] at htokens
  cases hrest : s.toList.dropWhile isSpace with
  | nil =>
      rw [hrest] at htokens
      cases htokens
      contradiction
  | cons c rest =>
      rw [hrest] at htokens hsplit
      have hc : isSpace c = false := by
        have hhead := List.head?_dropWhile_not isSpace s.toList
        rw [hrest] at hhead
        simpa using hhead
      exact ⟨_, c, rest, hblanks, opening_of_scan hc htokens hform hv hcontainer, hsplit⟩

/-- A text is read by its tokens. -/
theorem parse?_of_tokens? {s : String} {tokens : List Token} {v : Json}
    (htokens : tokens? s.toList = some tokens)
    (hvalue : (Form.ofTokens? tokens).bind (Form.value? depthLimit) = some v) :
    parse? s = some v := by
  rw [parse?, Form.read?, htokens]
  exact hvalue

end Folio.Json
