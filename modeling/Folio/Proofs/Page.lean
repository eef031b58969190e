import Folio.Page
import Folio.Proofs.Text.Utf8

/-!
# Folio.Proofs.Page

The text of pages in UTF-8.  Such a page has no mark of an encoding unless its
text begins with one (`forMark?_encode`), and UTF-8 decodes it to its text
(`decode?_utf8_encode`).  So the text is read back wherever UTF-8 is tried
first.  It is tried behind the simplified Chinese encoding when a page declares
an encoding that nobody knows, and then that encoding decides
(`readsBack_iff`).
-/

namespace Folio

open Folio.Text

namespace Charset

/-! ## UTF-8 -/

@[simp] theorem allChars?_map_some (done s : List Char) :
    allChars? done (s.map some) = some (done.reverse ++ s) := by
  induction s generalizing done with
  | nil => rw [List.map_nil, allChars?, List.append_nil]
  | cons c s ih =>
      simp [allChars?, ih]

@[simp] theorem decode?_utf8_encode (s : List Char) : utf8.decode? (Utf8.encode s) = some s := by
  have hall : utf8.decode? (Utf8.encode s) =
      allChars? [] (Utf8.scan Utf8.start (Utf8.encode s)) := rfl
  rw [hall, Utf8.scan_encode, allChars?_map_some]
  rfl

/-- The bytes of the marks are read by the scan: the first mark as U+FEFF, the others as
malformed, which the bytes of a text never are. -/
theorem forMark?_encode {s : List Char} (h : s.head? ≠ some '\uFEFF') :
    forMark? (Utf8.encode s) = none := by
  have hscan := Utf8.scan_encode s
  rw [forMark?.eq_def]
  split
  · next rest hbytes =>
    have hmark : Utf8.scan Utf8.start (0xEF :: 0xBB :: 0xBF :: rest) =
        some '\uFEFF' :: Utf8.scan Utf8.start rest := Utf8.scan_utf8EncodeChar '\uFEFF' rest
    rw [hbytes, hmark] at hscan
    cases s with
    | nil => cases hscan
    | cons c s =>
        obtain ⟨rfl⟩ : some '\uFEFF' = some c := (List.cons.inj hscan).1
        exact absurd rfl h
  · next rest hbytes =>
    have hnone : none ∈ s.map some := by
      rw [← hscan, hbytes]
      exact List.mem_cons_self
    simp at hnone
  · next rest hbytes =>
    have hnone : none ∈ s.map some := by
      rw [← hscan, hbytes]
      exact List.mem_cons_self
    simp at hnone
  · rfl

/-! ## Tables -/

/-- The words of a table are cut at the blanks between them. -/
@[simp] theorem tableWords_ofList (cs : List Char) : tableWords (String.ofList cs) =
    (splitWhere (fun c => c == ' ' || c == '\n') cs).filter (!·.isEmpty) := by
  rw [tableWords, String.toList_ofList]

theorem not_mem_tableWords {word cs : List Char} {data : String} (hdata : data = String.ofList cs)
    (hword : word ∉ (splitWhere (fun c => c == ' ' || c == '\n') cs).filter (!·.isEmpty)) :
    word ∉ tableWords data := by
  rwa [hdata, tableWords_ofList]

/-- A label that stands in no entry of the table declares nothing. -/
theorem forLabel?_eq_none {label : List Char}
    (h : ∀ entry ∈ labelTable,
      (dropEndWhile isAsciiBlank (label.dropWhile isAsciiBlank)).map lowerAscii ∉
        tableWords entry.2) : forLabel? label = none := by
  rw [forLabel?, List.lookup_eq_none_iff]
  rintro ⟨word, charset⟩ hmem
  obtain ⟨⟨name, words⟩, hentry, hword⟩ := List.mem_flatMap.mp hmem
  obtain ⟨w, hw, ⟨⟩⟩ := List.mem_map.mp hword
  rw [bne_iff_ne]
  rintro rfl
  exact h _ hentry hw

set_option maxRecDepth 2000 in
/-- The table is read from the characters of its entries, one entry after the other. -/
theorem forLabel?_unknown : forLabel? "no-such-charset".toList = none := by
  refine forLabel?_eq_none ?_
  simp only [labelTable, List.forall_mem_cons]
  repeat' apply And.intro
  all_goals
    first
      | exact not_mem_tableWords rfl (by decide +kernel)
      | exact List.forall_mem_nil _

/-- The characters of a row are those that its words list. -/
theorem getD_chinese {i : Nat} {cs : List Char} (h : chineseRows[i]? = some (String.ofList cs)) :
    chinese.getD i #[] = (((splitWhere (fun c => c == ' ' || c == '\n') cs).filter
      (!·.isEmpty)).flatMap wordChars).toArray := by
  have hrow : chinese[i]? = some (readChars (String.ofList cs)) := by
    simp [chinese, h]
  simp [Array.getD_eq_getD_getElem?, hrow, readChars]

/-! ## The simplified Chinese encodings -/

/-- One character is read, and then those behind it. -/
theorem readAll_of_eq_some {one? : CharReader} {bytes rest : List UInt8} {chars done : List Char}
    {fuel : Nat} (hne : bytes ≠ []) (h : one? bytes = some (chars, rest)) :
    readAll one? done (fuel + 1) bytes = readAll one? (chars.reverseAux done) fuel rest := by
  obtain ⟨b, bytes, rfl⟩ := List.exists_cons_of_ne_nil hne
  rw [readAll, h]
  exact fun hnil => hne hnil

/-- The first byte chooses the row, the second the character. -/
theorem readChinese_pair {lead b : UInt8} {row column : Nat} (rest : List UInt8)
    (hlead : lead.toNat = row + 0x81) (hrow : row < 126) (hb : b.toNat = column + 0x41)
    (hcolumn : 63 ≤ column ∧ column < 190) :
    readChinese (lead :: b :: rest) = read (charAt? (chinese.getD row #[]) column) rest := by
  have hbeyond : ¬lead < 128 := by
    rw [UInt8.lt_iff_toNat_lt, hlead]
    exact Nat.not_lt.mpr (Nat.le_add_left_of_le (by decide))
  have hdigit : within 0x30 0x39 (column + 0x41) = false := by
    simp only [within, Bool.and_eq_false_iff, decide_eq_false_iff_not]
    omega
  have hfirst : within 0x40 0x7E (column + 0x41) = false := by
    simp only [within, Bool.and_eq_false_iff, decide_eq_false_iff_not]
    omega
  have hsecond : within 0x80 0xFE (column + 0x41) = true := by
    simp only [within, Bool.and_eq_true, decide_eq_true_eq]
    omega
  rw [readChinese, asciiOr, if_neg hbeyond, hlead, if_neg (by omega), if_neg (by omega)]
  simp only [hb, hdigit, hfirst, hsecond, Nat.add_sub_cancel, Bool.false_eq_true, if_false,
    if_true]

set_option maxRecDepth 4000 in
/-- Six bytes of two characters in UTF-8 are three characters of two bytes each. -/
theorem decode?_gbk_sixBytes :
    gbk.decode? [0xE4, 0xBD, 0xA0, 0xE5, 0xA5, 0xBD] = some "浣犲ソ".toList := by
  have hfirst : charAt? (chinese.getD 99 #[]) 124 = some '浣' := by
    rw [getD_chinese (i := 99) rfl]
    decide +kernel
  have hsecond : charAt? (chinese.getD 31 #[]) 164 = some '犲' := by
    rw [getD_chinese (i := 31) rfl]
    decide +kernel
  have hthird : charAt? (chinese.getD 36 #[]) 124 = some 'ソ' := by
    rw [getD_chinese (i := 36) rfl]
    decide +kernel
  have hread₁ (rest : List UInt8) : readChinese (0xE4 :: 0xBD :: rest) = some (['浣'], rest) := by
    rw [readChinese_pair rest rfl (by decide) rfl (by decide), hfirst]
    rfl
  have hread₂ (rest : List UInt8) : readChinese (0xA0 :: 0xE5 :: rest) = some (['犲'], rest) := by
    rw [readChinese_pair rest rfl (by decide) rfl (by decide), hsecond]
    rfl
  have hread₃ (rest : List UInt8) : readChinese (0xA5 :: 0xBD :: rest) = some (['ソ'], rest) := by
    rw [readChinese_pair rest rfl (by decide) rfl (by decide), hthird]
    rfl
  have hread : gbk.decode? [0xE4, 0xBD, 0xA0, 0xE5, 0xA5, 0xBD] =
      readAll readChinese [] 6 [0xE4, 0xBD, 0xA0, 0xE5, 0xA5, 0xBD] := rfl
  rw [hread, readAll_of_eq_some (List.cons_ne_nil _ _) (hread₁ _),
    readAll_of_eq_some (List.cons_ne_nil _ _) (hread₂ _),
    readAll_of_eq_some (List.cons_ne_nil _ _) (hread₃ _)]
  rfl

end Charset

namespace Page

/-! ## Decoding -/

variable {bytes : List UInt8} {declared : Option String}

/-- The encodings that are tried, in their order. -/
def tried (declared : Option String) : List Charset :=
  (declaredEncoding declared).value.toList ++ fallbacks

theorem markedText?_encode {s : List Char} (hmark : s.head? ≠ some '\uFEFF') :
    markedText? (Utf8.encode s) = none := by
  rw [markedText?, Charset.forMark?_encode hmark]
  rfl

/-- Bytes that no mark decides are decoded by the first encoding that can. -/
theorem value_decode_of_firstDecoded? {text : List Char} {charset : Charset}
    (hmarked : markedText? bytes = none)
    (hfirst : firstDecoded? bytes (tried declared) = some (text, charset)) :
    (decode bytes declared).value = .ok (text, charset) := by
  rw [decode, hmarked]
  simp only [Traced.value_bind]
  rw [tried] at hfirst
  rw [hfirst]
  dsimp only
  -- a report of another encoding than the declared one changes no value
  split <;> rfl

/-- A page that declares UTF-8, or nothing. -/
theorem value_decode_encode {s : List Char} (hmark : s.head? ≠ some '\uFEFF')
    (hdeclared : (declaredEncoding declared).value = some .utf8) :
    (decode (Utf8.encode s) declared).value = .ok (s, .utf8) := by
  refine value_decode_of_firstDecoded? (markedText?_encode hmark) ?_
  have htried : tried declared = .utf8 :: fallbacks := by rw [tried, hdeclared]; rfl
  rw [htried, firstDecoded?, Charset.decode?_utf8_encode]

/-- A page that declares what nobody knows. -/
theorem value_decode_encode_of_unknown {s : List Char} (hmark : s.head? ≠ some '\uFEFF')
    (hdeclared : (declaredEncoding declared).value = none) :
    (decode (Utf8.encode s) declared).value =
      match Charset.gbk.decode? (Utf8.encode s) with
      | some misread => .ok (misread, .gbk)
      | none => .ok (s, .utf8) := by
  have htried : tried declared = [.gbk, .utf8, .western] := by rw [tried, hdeclared]; rfl
  cases hgbk : Charset.gbk.decode? (Utf8.encode s) with
  | some misread =>
      refine value_decode_of_firstDecoded? (markedText?_encode hmark) ?_
      rw [htried, firstDecoded?, hgbk]
  | none =>
      refine value_decode_of_firstDecoded? (markedText?_encode hmark) ?_
      simp [htried, firstDecoded?, hgbk]

/-- The text is got back from its bytes in UTF-8 under a declaration. -/
def ReadsBack (declared : Option String) (text : String) : Prop :=
  (decode (Utf8.bytes text) declared).value.map (·.1) = .ok text.toList

/-- **Pages in UTF-8.**  Where no encoding is declared, or UTF-8, the text of a page is
read back from its bytes.  Where the page declares what nobody knows, it is read
back exactly when the bytes do not happen to be another text in the simplified
Chinese encoding. -/
theorem readsBack_iff {text : String} (hmark : text.toList.head? ≠ some '\uFEFF')
    (hdeclared : (declaredEncoding declared).value = some .utf8 ∨
      (declaredEncoding declared).value = none) :
    ReadsBack declared text ↔
      ((declaredEncoding declared).value = none →
        ∀ misread, Charset.gbk.decode? (Utf8.bytes text) = some misread →
          misread = text.toList) := by
  rw [ReadsBack, Utf8.bytes]
  rcases hdeclared with hutf8 | hunknown
  · rw [value_decode_encode hmark hutf8, hutf8]
    exact iff_of_true rfl fun h => absurd h (Option.some_ne_none _)
  · rw [value_decode_encode_of_unknown hmark hunknown]
    cases Charset.gbk.decode? (Utf8.encode text.toList) with
    | some misread => simp [Except.map, hunknown]
    | none => simp [Except.map]

/-- A page that declares its encoding as it is. -/
theorem readsBack_declaredUtf8 : ReadsBack (some " UTF-8 ") "你好" := by
  have hdeclared : (declaredEncoding (some " UTF-8 ")).value = some .utf8 := by decide +kernel
  refine (readsBack_iff (by decide +kernel) (Or.inl hdeclared)).mpr fun hnone => ?_
  rw [hdeclared] at hnone
  cases hnone

/-- Under a label that nobody knows the same page is another text: its six bytes are three
characters of two bytes each. -/
theorem not_readsBack_unknownLabel :
    (declaredEncoding (some "no-such-charset")).value = none ∧
      (decode (Utf8.bytes "你好") (some "no-such-charset")).value =
        .ok ("浣犲ソ".toList, .gbk) ∧
      ¬ReadsBack (some "no-such-charset") "你好" := by
  have hunknown : (declaredEncoding (some "no-such-charset")).value = none := by
    have htrim : trim "no-such-charset".toList = "no-such-charset".toList := by decide +kernel
    rw [declaredEncoding, htrim, Charset.forLabel?_unknown]
    rfl
  have hbytes : Utf8.bytes "你好" = [0xE4, 0xBD, 0xA0, 0xE5, 0xA5, 0xBD] := by decide +kernel
  have hgbk : Charset.gbk.decode? (Utf8.bytes "你好") = some "浣犲ソ".toList := by
    rw [hbytes]
    exact Charset.decode?_gbk_sixBytes
  refine ⟨hunknown, ?_, fun h => ?_⟩
  · rw [Utf8.bytes] at hgbk ⊢
    rw [value_decode_encode_of_unknown (by decide) hunknown, hgbk]
  · have hback := (readsBack_iff (by decide) (Or.inr hunknown)).mp h hunknown _ hgbk
    exact absurd hback (by decide)

end Page

end Folio
