import Folio.Proofs.Url.Escape
import Folio.Request.Keyword

/-!
# Folio.Proofs.Request.Escape

What a keyword may look like in a request.  Whatever the keyword, it is written
with letters, digits, a few marks and escapes, and with none of the characters
that a placeholder, a list of pages, an options block or a query is made of; what
was encoded is read back by undoing the escapes (`escaped_encodeKeyword`).
-/

namespace Folio.Request

open Folio.Text

/-- What is kept of a keyword in a charset. -/
def keptIn : Charset → Char → Bool
  | .utf8 => keptInComponent
  | _ => keptInForm

/-- The marks that are kept besides letters and digits. -/
def keptMarks : Charset → List Char
  | .utf8 => "-_.!~*'()".toList
  | _ => "-_.*".toList

/-- The characters that part a template, its options, or a query. -/
def separators : List Char := "\x7b\x7d<>,\"\\&=/?#".toList

section

variable {charset : Charset} {c : Char}

theorem mem_keptMarks_of_keptIn (h : keptIn charset c = true) :
    isAsciiAlnum c = true ∨ c ∈ keptMarks charset := by
  have hcomponent (h : keptInComponent c = true) :
      isAsciiAlnum c = true ∨ c ∈ "-_.!~*'()".toList := by
    simpa [keptInComponent, or_assoc] using h
  have hform (h : keptInForm c = true) : isAsciiAlnum c = true ∨ c ∈ "-_.*".toList := by
    simpa [keptInForm, or_assoc] using h
  cases charset with
  | utf8 => exact hcomponent h
  | _ => exact hform h

@[simp] theorem keptIn_percent (charset : Charset) : keptIn charset '%' = false := by
  cases charset <;> rfl

/-- No separator is kept, and none is part of an escape. -/
theorem not_kept_of_mem_separators (hc : c ∈ separators) :
    ¬(isAsciiAlnum c = true ∨ c ∈ keptMarks charset ∨ c = '%') := by
  have hcomponent : ∀ c ∈ separators,
      ¬(isAsciiAlnum c = true ∨ c ∈ "-_.!~*'()".toList ∨ c = '%') := by decide
  have hform : ∀ c ∈ separators, ¬(isAsciiAlnum c = true ∨ c ∈ "-_.*".toList ∨ c = '%') := by
    decide
  cases charset with
  | utf8 => exact hcomponent c hc
  | _ => exact hform c hc

end

/-! ## Bytes -/

@[simp] theorem encodeOne_utf8 (c : Char) :
    (Charset.utf8.encodeOne c).1 = String.utf8EncodeChar c := by
  rw [Charset.encodeOne]
  split
  · next hascii =>
    have hvalue : c.val.toNat = c.toNat := rfl
    rw [String.utf8EncodeChar, hvalue, if_pos (by omega)]
  · change String.utf8EncodeChar (Char.ofNat c.toNat) = String.utf8EncodeChar c
    rw [Char.ofNat_toNat]

@[simp] theorem encode_utf8 (s : List Char) : (Charset.utf8.encode s).1 = Utf8.encode s := by
  change (s.map Charset.utf8.encodeOne).flatMap (·.1) = s.flatMap String.utf8EncodeChar
  rw [List.flatMap_map]
  exact congrArg s.flatMap (funext encodeOne_utf8)

/-- In an encoding that is known every keyword has a form. -/
theorem value_encodeIn (keyword label : String) (charset : Charset) :
    (encodeIn keyword label (some charset)).value =
      .ok (String.ofList
        (Url.encodeBytes (keptIn charset) (charset.encode keyword.toList).1)) := by
  unfold encodeIn
  split
  · contradiction
  · next heq =>
    obtain rfl := Option.some.inj heq
    rw [encode_utf8]
    rfl
  · next other hne heq =>
    obtain rfl := Option.some.inj heq
    have hkept : keptIn charset = keptInForm := by
      cases charset with
      | utf8 => exact absurd rfl hne
      | _ => rfl
    rw [hkept]
    dsimp only
    split <;> rfl

theorem value_encodeKeyword {label : Option String} {charset : Charset}
    (h : Charset.forLabel? (label.getD "utf-8").toList = some charset) (keyword : String) :
    (encodeKeyword keyword label).value =
      .ok (String.ofList
        (Url.encodeBytes (keptIn charset) (charset.encode keyword.toList).1)) := by
  rw [encodeKeyword, h]
  exact value_encodeIn _ _ _

/-- No separator is written. -/
theorem not_mem_encodeBytes {c : Char} (hc : c ∈ separators) (charset : Charset)
    (bytes : List UInt8) : c ∉ Url.encodeBytes (keptIn charset) bytes := by
  intro hmem
  have hescaped : Url.Escaped (keptMarks charset) (Url.encodeBytes (keptIn charset) bytes) :=
    Url.escaped_encodeBytes (fun _ => mem_keptMarks_of_keptIn) bytes
  exact not_kept_of_mem_separators hc (hescaped.of_mem hmem)

/-! ## Keywords -/

/-- **Keywords.**  In every encoding that a label declares a keyword is written with
letters, digits, the marks of the encoding and escapes, and with no separator;
undoing the escapes gives its bytes.  In UTF-8 these are those of the keyword
alone. -/
theorem escaped_encodeKeyword (keyword : String) {label : Option String} {charset : Charset}
    (h : Charset.forLabel? (label.getD "utf-8").toList = some charset) :
    ∃ encoded, (encodeKeyword keyword label).value = .ok encoded ∧
      Url.Escaped (keptMarks charset) encoded.toList ∧
      (∀ c ∈ separators, c ∉ encoded.toList) ∧
      Url.decodeBytes encoded.toList = (charset.encode keyword.toList).1 ∧
      (charset = .utf8 → Url.decodeBytes encoded.toList = Utf8.bytes keyword ∧
        ∀ other, (encodeKeyword other label).value = .ok encoded → other = keyword) := by
  have hvalue := value_encodeKeyword h
  have hread (bytes : List UInt8) :
      Url.decodeBytes (Url.encodeBytes (keptIn charset) bytes) = bytes :=
    Url.decodeBytes_encodeBytes (keptIn_percent charset) bytes
  refine ⟨_, hvalue keyword, ?_⟩
  rw [String.toList_ofList]
  refine ⟨Url.escaped_encodeBytes (fun _ => mem_keptMarks_of_keptIn) _,
    fun c hc => not_mem_encodeBytes hc charset _, hread _, ?_⟩
  · rintro rfl
    refine ⟨(hread _).trans (encode_utf8 _), ?_⟩
    intro other hother
    have hsame := Except.ok.inj ((hvalue other).symm.trans hother)
    have hbytes := congrArg Url.decodeBytes (String.ofList_injective hsame)
    rw [hread, hread, encode_utf8, encode_utf8] at hbytes
    exact String.toList_injective (Utf8.encode_injective hbytes)

/-- A keyword of three characters: the first is beyond ASCII, the second is no mark. -/
theorem escaped_encodeKeyword_braced :
    Charset.forLabel? " UTF8 ".toList = some .utf8 ∧
    ∃ encoded, (encodeKeyword "三\x7b~" (some " UTF8 ")).value = .ok encoded ∧
      encoded = "%E4%B8%89%7B~" ∧ Url.Escaped (keptMarks .utf8) encoded.toList ∧
      (∀ c ∈ separators, c ∉ encoded.toList) ∧
      Url.decodeBytes encoded.toList = Utf8.bytes "三\x7b~" ∧
      ∀ other, (encodeKeyword other (some " UTF8 ")).value = .ok encoded → other = "三\x7b~" := by
  have hlabel : Charset.forLabel? ((some " UTF8 ").getD "utf-8").toList = some .utf8 := by
    decide +kernel
  have hencoded : (encodeKeyword "三\x7b~" (some " UTF8 ")).value.toOption =
      some "%E4%B8%89%7B~" := by decide +kernel
  obtain ⟨encoded, hvalue, hescaped, hseparators, -, hutf8⟩ :=
    escaped_encodeKeyword "三\x7b~" hlabel
  obtain ⟨hread, hunique⟩ := hutf8 rfl
  rw [hvalue] at hencoded
  exact ⟨hlabel, encoded, hvalue, Option.some.inj hencoded, hescaped, hseparators, hread, hunique⟩

end Folio.Request
