import Folio.Proofs.Page

/-!
# Folio.Proofs.Decoding

Decoding never fails.  What is tried on the bytes of a page makes a ladder
(`ladder`): the encoding of the mark they begin with, the declared one, and
those that stand in for it.  The first that decodes them decides
(`value_decode_of_findSome?`), and the last has a character for every byte
(`exists_decode?_western`), so that there always is a first (`decode_ladder`).
-/

namespace Folio

open Folio.Text

namespace Charset

/-! ## Encodings of one byte -/

/-- Every byte from 128 on has a character. -/
def IsFull (table : Array Nat) : Prop := ∀ i < 128, (charAt? table i).isSome = true

instance (table : Array Nat) : Decidable (IsFull table) :=
  inferInstanceAs (Decidable (∀ i < 128, _))

theorem exists_readSingle {table : Array Nat} (h : IsFull table) (b : UInt8) (rest : List UInt8) :
    ∃ chars, readSingle table (b :: rest) = some (chars, rest) := by
  by_cases hb : b < 128
  · exact ⟨[Char.ofNat b.toNat], by simp [readSingle, asciiOr, hb]⟩
  · have hlow : 128 ≤ b.toNat := UInt8.le_iff_toNat_le.mp (UInt8.not_lt.mp hb)
    have hhigh : b.toNat < 256 := UInt8.toNat_lt b
    obtain ⟨c, hc⟩ := Option.isSome_iff_exists.mp (h (b.toNat - 128) (by omega))
    exact ⟨[c], by simp [readSingle, asciiOr, hb, read, hc]⟩

/-- Characters that can always be read are read to the end. -/
theorem exists_readAll {one? : CharReader}
    (hone : ∀ b rest, ∃ chars, one? (b :: rest) = some (chars, rest)) (bytes : List UInt8)
    (done : List Char) : ∃ text, readAll one? done bytes.length bytes = some text := by
  induction bytes generalizing done with
  | nil => exact ⟨done.reverse, rfl⟩
  | cons b bytes ih =>
      obtain ⟨chars, hchars⟩ := hone b bytes
      obtain ⟨text, htext⟩ := ih (chars.reverseAux done)
      refine ⟨text, ?_⟩
      rw [List.length_cons, readAll, hchars]
      · exact htext
      · exact List.cons_ne_nil b bytes

theorem exists_decode?_single {name : String} (h : IsFull (singleTable name))
    (bytes : List UInt8) : ∃ text, (single name).decode? bytes = some text :=
  exists_readAll (exists_readSingle h) bytes []

theorem isFull_western : IsFull (singleTable "windows-1252") := by decide +kernel

/-- The western encoding decodes whatever bytes there are. -/
theorem exists_decode?_western (bytes : List UInt8) : ∃ text, western.decode? bytes = some text :=
  exists_decode?_single isFull_western bytes

end Charset

namespace Page

/-! ## The ladder -/

/-- The encoding of a declaration: UTF-8 where there is none, and none where the label is
unknown. -/
def namedEncoding? : Option String → Option Charset
  | none => some .utf8
  | some label => Charset.forLabel? (trim label.toList)

/-- What is tried on bytes, in this order: the encoding of the mark they begin with, on
those behind the mark, and then on all of them the declared encoding, GBK, UTF-8 and the
western encoding. -/
def ladder (bytes : List UInt8) (declared : Option String) : List (Charset × List UInt8) :=
  (Charset.forMark? bytes).toList ++
    ((namedEncoding? declared).toList ++ [Charset.gbk, .utf8, .western]).map fun charset =>
      (charset, bytes)

/-- What a rung of the ladder gives: a text when no byte is malformed. -/
def attempt? (rung : Charset × List UInt8) : Option (List Char × Charset) :=
  (rung.1.decode? rung.2).map fun text => (text, rung.1)

variable {bytes : List UInt8} {declared : Option String}

theorem value_declaredEncoding (declared : Option String) :
    (declaredEncoding declared).value = namedEncoding? declared := by
  cases declared with
  | none => rfl
  | some label =>
      rw [declaredEncoding, namedEncoding?]
      cases Charset.forLabel? (trim label.toList) with
      | none => rfl
      | some charset => rfl

theorem firstDecoded?_eq_findSome? (bytes : List UInt8) (list : List Charset) :
    firstDecoded? bytes list = (list.map fun charset => (charset, bytes)).findSome? attempt? := by
  induction list with
  | nil => rfl
  | cons charset list ih =>
      rw [firstDecoded?, ih, List.map_cons, List.findSome?_cons, attempt?]
      cases charset.decode? bytes with
      | none => rfl
      | some text => rfl

theorem markedText?_eq_findSome? (bytes : List UInt8) :
    markedText? bytes = (Charset.forMark? bytes).toList.findSome? attempt? := by
  rw [markedText?]
  cases Charset.forMark? bytes with
  | none => rfl
  | some rung =>
      obtain ⟨charset, rest⟩ := rung
      simp only [Option.toList_some, List.findSome?_singleton, attempt?, bind, Option.bind]
      cases charset.decode? rest with
      | none => rfl
      | some text => rfl

/-- **The first rung that holds.** -/
theorem value_decode_of_findSome? {result : List Char × Charset}
    (h : (ladder bytes declared).findSome? attempt? = some result) :
    (decode bytes declared).value = .ok result := by
  rw [ladder, List.findSome?_append, ← markedText?_eq_findSome?, ← firstDecoded?_eq_findSome?] at h
  cases hmarked : markedText? bytes with
  | some marked =>
      rw [hmarked, Option.some_or, Option.some.injEq] at h
      rw [decode, hmarked, h]
      rfl
  | none =>
      rw [hmarked, Option.none_or, ← value_declaredEncoding] at h
      exact value_decode_of_firstDecoded? hmarked h

/-- The last rung holds. -/
theorem exists_findSome?_ladder (bytes : List UInt8) (declared : Option String) :
    ∃ result, (ladder bytes declared).findSome? attempt? = some result := by
  obtain ⟨text, htext⟩ := Charset.exists_decode?_western bytes
  rw [← Option.isSome_iff_exists, List.findSome?_isSome_iff]
  exact ⟨(Charset.western, bytes), by simp [ladder], by simp [attempt?, htext]⟩

/-- **Decoding never fails.**  Bytes are decoded by the first rung of the ladder that finds
nothing malformed, and the text is what that one gives. -/
theorem decode_ladder (bytes : List UInt8) (declared : Option String) :
    ∃ failed charset rest later text,
      ladder bytes declared = failed ++ (charset, rest) :: later ∧
        (∀ rung ∈ failed, rung.1.decode? rung.2 = none) ∧
        charset.decode? rest = some text ∧
        (decode bytes declared).value = .ok (text, charset) := by
  obtain ⟨result, hresult⟩ := exists_findSome?_ladder bytes declared
  obtain ⟨failed, ⟨charset, rest⟩, later, hladder, hholds, hfailed⟩ :=
    List.findSome?_eq_some_iff.mp hresult
  obtain ⟨text, htext, rfl⟩ := Option.map_eq_some_iff.mp hholds
  refine ⟨failed, charset, rest, later, text, hladder, fun rung hrung => ?_, htext,
    value_decode_of_findSome? hresult⟩
  exact Option.map_eq_none_iff.mp (hfailed rung hrung)

/-- Every page has a text. -/
theorem exists_value_text (page : Page) (charset : Option String) :
    ∃ content, (page.text charset).value = .ok content := by
  obtain ⟨⟨text, encoding⟩, hresult⟩ := exists_findSome?_ladder page.body
    (declaredCharset charset page.contentType page.body)
  refine ⟨String.ofList text, ?_⟩
  simp [Page.text, value_decode_of_findSome? hresult, Except.map]

end Page

end Folio
