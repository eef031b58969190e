import Folio.Charset.Index
import Folio.Text.Utf8

/-!
# Folio.Charset.Decoder

Decoding bytes.  `decode?` gives the text of a sequence of bytes, and nothing
when any part of it is malformed.
-/

namespace Folio.Charset

open Folio.Text

/-! ## One character after the other -/

/-- What one character is read from: it and the bytes after it. -/
abbrev CharReader := List UInt8 → Option (List Char × List UInt8)

/-- Read characters to the end of the bytes; `done` are those read, last
first, and `fuel` bounds their number. -/
def readAll (one? : CharReader) (done : List Char) : Nat → List UInt8 → Option (List Char)
  | _, [] => some done.reverse
  | 0, _ => none
  | fuel + 1, bytes =>
    match one? bytes with
    | none => none
    | some (chars, rest) => readAll one? (chars.reverseAux done) fuel rest

/-- An ASCII character, for any other byte what `other` reads. -/
def asciiOr (other : Nat → CharReader) : CharReader
  | [] => none
  | b :: rest => if b < 128 then some ([Char.ofNat b.toNat], rest) else other b.toNat rest

/-- One character and the bytes after it. -/
def read (c : Option Char) (rest : List UInt8) : Option (List Char × List UInt8) :=
  c.map fun c => ([c], rest)

/-- The number lies from `low` to `high`. -/
def within (low high n : Nat) : Bool := low ≤ n && n ≤ high

/-! ## The encodings -/

/-- A character of an encoding of one byte. -/
def readSingle (table : Array Nat) : CharReader :=
  asciiOr fun b rest => read (charAt? table (b - 128)) rest

/-- A character of a private area for the bytes from 128 on. -/
def readUserDefined : CharReader :=
  asciiOr fun b rest => read (some (Char.ofNat (0xF780 + (b - 128)))) rest

/-- A character of the simplified Chinese encodings: of one, two or four
bytes. -/
def readChinese : CharReader :=
  asciiOr fun lead rest =>
    if lead = 0x80 then read (some '€') rest
    else if lead = 0xFF then none
    else
      match rest with
      | [] => none
      | b :: rest =>
        let b := b.toNat
        if within 0x30 0x39 b then
          match rest with
          | c :: d :: rest =>
            let c := c.toNat
            let d := d.toNat
            if within 0x81 0xFE c && within 0x30 0x39 d then
              read (rangeChar? ((((lead - 0x81) * 10 + (b - 0x30)) * 126 + (c - 0x81)) * 10 +
                (d - 0x30))) rest
            else none
          | _ => none
        else if within 0x40 0x7E b then
          read (charAt? (chinese.getD (lead - 0x81) #[]) (b - 0x40)) rest
        else if within 0x80 0xFE b then
          read (charAt? (chinese.getD (lead - 0x81) #[]) (b - 0x41)) rest
        else none

/-- The pointers of the traditional Chinese encoding that stand for two
characters. -/
def traditionalPair? (pointer : Nat) : Option (List Char) :=
  match pointer with
  | 1133 => some ['\u00CA', '\u0304']
  | 1135 => some ['\u00CA', '\u030C']
  | 1164 => some ['\u00EA', '\u0304']
  | 1166 => some ['\u00EA', '\u030C']
  | _ => none

/-- A character of the traditional Chinese encoding. -/
def readTraditional : CharReader :=
  asciiOr fun lead rest =>
    match rest with
    | [] => none
    | b :: rest =>
      let b := b.toNat
      if !within 0x81 0xFE lead || !(within 0x40 0x7E b || within 0xA1 0xFE b) then none
      else
        let pointer := (lead - 0x81) * 157 + (b - (if b < 0x7F then 0x40 else 0x62))
        match traditionalPair? pointer with
        | some pair => some (pair, rest)
        | none => read (charAt? traditional pointer) rest

/-- A character of the Korean encoding. -/
def readKorean : CharReader :=
  asciiOr fun lead rest =>
    match rest with
    | [] => none
    | b :: rest =>
      let b := b.toNat
      if within 0x81 0xFE lead && within 0x41 0xFE b then
        read (charAt? korean ((lead - 0x81) * 190 + (b - 0x41))) rest
      else none

/-- The character of a pair of bytes of the Japanese encodings with rows of 94
characters. -/
def rowChar? (index : Array Nat) (a b : Nat) : Option Char :=
  if within 0xA1 0xFE a && within 0xA1 0xFE b then charAt? index ((a - 0xA1) * 94 + (b - 0xA1))
  else none

/-- A half-width katakana, for bytes from 161 to 223. -/
def halfKatakana? (b : Nat) : Option Char :=
  if within 0xA1 0xDF b then some (Char.ofNat (0xFF61 + (b - 0xA1))) else none

/-- A character of the Japanese encoding with rows of 94 characters. -/
def readEucJp : CharReader :=
  asciiOr fun lead rest =>
    match lead, rest with
    | 0x8E, b :: rest => read (halfKatakana? b.toNat) rest
    | 0x8F, b :: c :: rest => read (rowChar? japaneseSupplement b.toNat c.toNat) rest
    | _, b :: rest => read (rowChar? japanese lead b.toNat) rest
    | _, [] => none

/-- A character of the Japanese encoding with rows of 188 characters. -/
def readShiftJis : CharReader :=
  asciiOr fun lead rest =>
    if lead = 0x80 then read (some '\u0080') rest
    else if within 0xA1 0xDF lead then read (halfKatakana? lead) rest
    else
      match rest with
      | [] => none
      | b :: rest =>
        let b := b.toNat
        if !(within 0x81 0x9F lead || within 0xE0 0xFC lead) ||
            !(within 0x40 0x7E b || within 0x80 0xFC b) then none
        else
          let pointer := (lead - (if lead < 0xA0 then 0x81 else 0xC1)) * 188 +
            (b - (if b < 0x7F then 0x40 else 0x41))
          if within 8836 10715 pointer then
            read (some (Char.ofNat (0xE000 + (pointer - 8836)))) rest
          else read (charAt? japanese pointer) rest

/-- The two bytes as a number. -/
def unit16 (bigEndian : Bool) (a b : UInt8) : Nat :=
  if bigEndian then a.toNat * 256 + b.toNat else b.toNat * 256 + a.toNat

/-- A character of the encodings in units of two bytes. -/
def readUtf16 (bigEndian : Bool) : CharReader
  | a :: b :: rest =>
    let unit := unit16 bigEndian a b
    if within 0xD800 0xDBFF unit then
      match rest with
      | c :: d :: rest =>
        let low := unit16 bigEndian c d
        if within 0xDC00 0xDFFF low then
          read (some (Char.ofNat (0x10000 + (unit - 0xD800) * 0x400 + (low - 0xDC00)))) rest
        else none
      | _ => none
    else if within 0xDC00 0xDFFF unit then none
    else read (some (Char.ofNat unit)) rest
  | _ => none

/-! ## The encoding with shifts -/

/-- The sets of characters that escape sequences choose between. -/
inductive Shift where
  | ascii
  | roman
  | katakana
  | japanese
deriving DecidableEq, Repr

/-- The set that an escape sequence chooses, and the bytes after it. -/
def shift? : List UInt8 → Option (Shift × List UInt8)
  | 0x28 :: 0x42 :: rest => some (.ascii, rest)
  | 0x28 :: 0x4A :: rest => some (.roman, rest)
  | 0x28 :: 0x49 :: rest => some (.katakana, rest)
  | 0x24 :: 0x40 :: rest => some (.japanese, rest)
  | 0x24 :: 0x42 :: rest => some (.japanese, rest)
  | _ => none

/-- A character of a set, and the bytes after it. -/
def Shift.read? (s : Shift) : List UInt8 → Option (Char × List UInt8)
  | [] => none
  | b :: rest =>
    let n := b.toNat
    match s with
    | .ascii =>
      if n < 128 && n != 0x0E && n != 0x0F then some (Char.ofNat n, rest) else none
    | .roman =>
      if n = 0x5C then some ('¥', rest)
      else if n = 0x7E then some ('‾', rest)
      else if n < 128 && n != 0x0E && n != 0x0F then some (Char.ofNat n, rest)
      else none
    | .katakana =>
      if within 0x21 0x5F n then some (Char.ofNat (0xFF61 + (n - 0x21)), rest) else none
    | .japanese =>
      match rest with
      | c :: rest =>
        (rowChar? Charset.japanese (n + 0x80) (c.toNat + 0x80)).map fun char => (char, rest)
      | [] => none

/-- Read characters within a set; an escape sequence that directly follows
another is malformed, which `chose` tells. -/
def readShifted (s : Shift) (chose : Bool) (done : List Char) :
    Nat → List UInt8 → Option (List Char)
  | _, [] => some done.reverse
  | 0, _ => none
  | fuel + 1, 0x1B :: rest =>
    match shift? rest with
    | some (next, rest) => if chose then none else readShifted next true done fuel rest
    | none => none
  | fuel + 1, bytes =>
    match s.read? bytes with
    | some (c, rest) => readShifted s false (c :: done) fuel rest
    | none => none

/-! ## Decoding -/

/-- The characters, when none is missing. -/
def allChars? (done : List Char) : List (Option Char) → Option (List Char)
  | [] => some done.reverse
  | none :: _ => none
  | some c :: rest => allChars? (c :: done) rest

/-- The text of a sequence of bytes, when no part of it is malformed. -/
def decode? (charset : Charset) (bytes : List UInt8) : Option (List Char) :=
  let readBy := fun one? => readAll one? [] bytes.length bytes
  match charset with
  | utf8 => allChars? [] (Utf8.scan Utf8.start bytes)
  | utf16 bigEndian => readBy (readUtf16 bigEndian)
  | gbk => readBy readChinese
  | gb18030 => readBy readChinese
  | big5 => readBy readTraditional
  | eucJp => readBy readEucJp
  | iso2022Jp => readShifted .ascii false [] bytes.length bytes
  | shiftJis => readBy readShiftJis
  | eucKr => readBy readKorean
  | replacement => if bytes.isEmpty then some [] else none
  | userDefined => readBy readUserDefined
  | single name => readBy (readSingle (singleTable name))

end Folio.Charset
