import Folio.Charset.Decoder

/-!
# Folio.Charset.Encoder

Encoding text.  A character that an encoding lacks is written as the character
reference of its number, and `encode` tells whether there was one.  The
encodings in units of two bytes, and the one that is not decoded, write UTF-8.
-/

namespace Folio.Charset

open Folio.Text

/-! ## One character -/

/-- Two bytes. -/
def pair (a b : Nat) : List UInt8 := [UInt8.ofNat a, UInt8.ofNat b]

/-- The bytes of a character of an encoding of one byte. -/
def encodeSingle? (table : Array Nat) (n : Nat) : Option (List UInt8) :=
  (table.toList.findIdx? (· == n)).map fun i => [UInt8.ofNat (128 + i)]

/-- The bytes of a character of the simplified Chinese encodings; four bytes are
written only where `long` allows them. -/
def encodeChinese? (long : Bool) (n : Nat) : Option (List UInt8) :=
  if n = 0xE5E5 then none
  else if n = 0x20AC && !long then some [0x80]
  else
    match chinesePointers.get? n with
    | some p =>
      let trail := p % 190
      some (pair (p / 190 + 0x81) (trail + if trail < 0x3F then 0x40 else 0x41))
    | none =>
      if !long then none
      else
        let p := rangePointer n
        some (pair (p / 12600 + 0x81) (p / 1260 % 10 + 0x30) ++
          pair (p / 10 % 126 + 0x81) (p % 10 + 0x30))

/-- The bytes of a character of the traditional Chinese encoding. -/
def encodeTraditional? (n : Nat) : Option (List UInt8) :=
  (traditionalPointers.get? n).map fun p =>
    let trail := p % 157
    pair (p / 157 + 0x81) (trail + if trail < 0x3F then 0x40 else 0x62)

/-- The bytes of a character of the Korean encoding. -/
def encodeKorean? (n : Nat) : Option (List UInt8) :=
  (koreanPointers.get? n).map fun p => pair (p / 190 + 0x81) (p % 190 + 0x41)

/-- The minus sign as it is written in Japanese encodings. -/
def fullMinus (n : Nat) : Nat := if n = 0x2212 then 0xFF0D else n

/-- The bytes of a character of the Japanese encoding with rows of 94
characters. -/
def encodeEucJp? (n : Nat) : Option (List UInt8) :=
  if n = 0xA5 then some [0x5C]
  else if n = 0x203E then some [0x7E]
  else if within 0xFF61 0xFF9F n then some (pair 0x8E (n - 0xFF61 + 0xA1))
  else (japanesePointers.get? (fullMinus n)).map fun p => pair (p / 94 + 0xA1) (p % 94 + 0xA1)

/-- The bytes of a character of the Japanese encoding with rows of 188
characters. -/
def encodeShiftJis? (n : Nat) : Option (List UInt8) :=
  if n = 0x80 then some [0x80]
  else if n = 0xA5 then some [0x5C]
  else if n = 0x203E then some [0x7E]
  else if within 0xFF61 0xFF9F n then some [UInt8.ofNat (n - 0xFF61 + 0xA1)]
  else
    (shiftedPointers.get? (fullMinus n)).map fun p =>
      let lead := p / 188
      let trail := p % 188
      pair (lead + if lead < 0x1F then 0x81 else 0xC1) (trail + if trail < 0x3F then 0x40 else 0x41)

/-- The bytes of a character beyond ASCII. -/
def encodeChar? (charset : Charset) (n : Nat) : Option (List UInt8) :=
  match charset with
  | gbk => encodeChinese? false n
  | gb18030 => encodeChinese? true n
  | big5 => encodeTraditional? n
  | eucJp => encodeEucJp? n
  | shiftJis => encodeShiftJis? n
  | eucKr => encodeKorean? n
  | userDefined => if within 0xF780 0xF7FF n then some [UInt8.ofNat (n - 0xF780 + 128)] else none
  | single name => encodeSingle? (singleTable name) n
  | _ => some (String.utf8EncodeChar (Char.ofNat n))

/-- The character reference of a number. -/
def reference (n : Nat) : List UInt8 :=
  (['&', '#'] ++ (toString n).toList ++ [';']).map fun c => UInt8.ofNat c.toNat

/-! ## The encoding with shifts -/

/-- Katakana of full width for those of half width from U+FF61 on. -/
def fullKatakana : List Nat :=
  [0x3002, 0x300C, 0x300D, 0x3001, 0x30FB, 0x30F2, 0x30A1, 0x30A3, 0x30A5, 0x30A7, 0x30A9,
    0x30E3, 0x30E5, 0x30E7, 0x30C3, 0x30FC, 0x30A2, 0x30A4, 0x30A6, 0x30A8, 0x30AA, 0x30AB,
    0x30AD, 0x30AF, 0x30B1, 0x30B3, 0x30B5, 0x30B7, 0x30B9, 0x30BB, 0x30BD, 0x30BF, 0x30C1,
    0x30C4, 0x30C6, 0x30C8, 0x30CA, 0x30CB, 0x30CC, 0x30CD, 0x30CE, 0x30CF, 0x30D2, 0x30D5,
    0x30D8, 0x30DB, 0x30DE, 0x30DF, 0x30E0, 0x30E1, 0x30E2, 0x30E4, 0x30E6, 0x30E8, 0x30E9,
    0x30EA, 0x30EB, 0x30EC, 0x30ED, 0x30EF, 0x30F3, 0x309B, 0x309C]

/-- The escape sequence that chooses a set. -/
def Shift.escape : Shift → List UInt8
  | .ascii => [0x1B, 0x28, 0x42]
  | .roman => [0x1B, 0x28, 0x4A]
  | .katakana => [0x1B, 0x28, 0x49]
  | .japanese => [0x1B, 0x24, 0x42]

/-- The set and the bytes in it of a character; nothing when there is none. -/
def shifted? (current : Shift) (n : Nat) : Option (Shift × List UInt8) :=
  if n = 0x0E || n = 0x0F || n = 0x1B then none
  else if n < 128 then
    let set := if current = .roman && n != 0x5C && n != 0x7E then Shift.roman else .ascii
    some (set, [UInt8.ofNat n])
  else if n = 0xA5 then some (.roman, [0x5C])
  else if n = 0x203E then some (.roman, [0x7E])
  else
    let n := if within 0xFF61 0xFF9F n then fullKatakana.getD (n - 0xFF61) 0 else fullMinus n
    (japanesePointers.get? n).map fun p => (.japanese, pair (p / 94 + 0x21) (p % 94 + 0x21))

/-- The escape sequence where the set changes. -/
def changeTo (current next : Shift) : List UInt8 := if current = next then [] else next.escape

/-- The bytes of a text, written from within a set, and whether a character was
missing. -/
def encodeShifted (current : Shift) : List Char → List UInt8 × Bool
  | [] => (changeTo current .ascii, false)
  | c :: rest =>
    match shifted? current c.toNat with
    | some (set, bytes) =>
      let (others, missing) := encodeShifted set rest
      (changeTo current set ++ bytes ++ others, missing)
    | none =>
      let set := if current = .japanese then Shift.ascii else current
      let n := if c.toNat < 128 then 0xFFFD else c.toNat
      let (others, _) := encodeShifted set rest
      (changeTo current set ++ reference n ++ others, true)

/-! ## Encoding -/

/-- The bytes of a character, and whether it is missing. -/
def encodeOne (charset : Charset) (c : Char) : List UInt8 × Bool :=
  if c.toNat < 128 then ([UInt8.ofNat c.toNat], false)
  else
    match encodeChar? charset c.toNat with
    | some bytes => (bytes, false)
    | none => (reference c.toNat, true)

/-- The bytes of a text, and whether a character was missing. -/
def encode (charset : Charset) (s : List Char) : List UInt8 × Bool :=
  match charset with
  | iso2022Jp => encodeShifted .ascii s
  | _ =>
    let parts := s.map (encodeOne charset)
    (parts.flatMap (·.1), parts.any (·.2))

end Folio.Charset
