import Std.Data.HashMap
import Folio.Charset.Basic
import Folio.Charset.ChineseTable
import Folio.Charset.JapaneseSupplementTable
import Folio.Charset.JapaneseTable
import Folio.Charset.KoreanTable
import Folio.Charset.SingleByteTable
import Folio.Charset.TraditionalTable

/-!
# Folio.Charset.Index

The characters of encodings by their pointers, and the pointers of characters.
A pointer numbers the sequences of bytes of an encoding; zero in place of a
character marks a pointer that stands for none.
-/

namespace Folio.Charset

open Folio.Text

/-! ## Characters -/

/-- The characters that a word of a table lists. -/
def wordChars (word : List Char) : List Nat :=
  match word with
  | '-' :: count => List.replicate (hexValue count) 0
  | _ =>
    match cut? ['+'] word with
    | some (first, count) => (List.range (hexValue count)).map (hexValue first + ·)
    | none => [hexValue word]

/-- The characters of a table by their pointers. -/
def readChars (data : String) : Array Nat := ((tableWords data).flatMap wordChars).toArray

/-- Characters of two bytes of the simplified Chinese encodings, by rows of one first
byte. -/
def chinese : Array (Array Nat) := (chineseRows.map readChars).toArray

/-- Characters of two bytes of the traditional Chinese encoding. -/
def traditional : Array Nat := readChars traditionalData

/-- Characters of two bytes of the Korean encoding. -/
def korean : Array Nat := readChars koreanData

/-- Characters of two bytes of the Japanese encodings. -/
def japanese : Array Nat := readChars japaneseData

/-- Characters of three bytes of a Japanese encoding. -/
def japaneseSupplement : Array Nat := readChars japaneseSupplementData

/-- The character of a pointer. -/
def charAt? (index : Array Nat) (pointer : Nat) : Option Char :=
  match index.getD pointer 0 with
  | 0 => none
  | n => some (Char.ofNat n)

/-! ## Pointers -/

/-- The pointers of characters.  A character with several pointers has the
first of those that `usable` admits, or the last where `last` says so. -/
def pointersOf (index : Array Nat) (usable : Nat → Bool) (last : Nat → Bool) :
    Std.HashMap Nat Nat :=
  ((List.range index.size).zip index.toList).foldl (fun pointers (pointer, c) =>
    if c = 0 || !usable pointer then pointers
    else if last c then pointers.insert c pointer
    else pointers.insertIfNew c pointer) {}

/-- Private characters that earlier editions had in place of others, and the
pointers that are written for them. -/
def formerChinese : List (Nat × Nat) :=
  [(0xE78D, 7182), (0xE78E, 7183), (0xE78F, 7184), (0xE790, 7185), (0xE791, 7186),
    (0xE792, 7187), (0xE793, 7188), (0xE794, 7201), (0xE795, 7202), (0xE796, 7208),
    (0xE81E, 23775), (0xE826, 23783), (0xE82B, 23788), (0xE82C, 23789), (0xE832, 23795),
    (0xE843, 23812), (0xE854, 23829), (0xE864, 23845)]

/-- The pointers of the simplified Chinese encodings. -/
def chinesePointers : Std.HashMap Nat Nat :=
  (pointersOf chinese.flatten (fun _ => true) fun _ => false).insertMany formerChinese

/-- The pointers of the traditional Chinese encoding: those of the Hong Kong
supplement before the first level are read but not written. -/
def traditionalPointers : Std.HashMap Nat Nat :=
  pointersOf traditional (· ≥ 5024) fun c =>
    [0x2550, 0x255E, 0x2561, 0x256A, 0x5341, 0x5345].contains c

/-- The pointers of the Korean encoding. -/
def koreanPointers : Std.HashMap Nat Nat := pointersOf korean (fun _ => true) fun _ => false

/-- The pointers of the Japanese encodings with rows of 94 characters. -/
def japanesePointers : Std.HashMap Nat Nat := pointersOf japanese (· < 8836) fun _ => false

/-- The pointers of the Japanese encoding with rows of 188 characters; a part
that repeats characters is read but not written. -/
def shiftedPointers : Std.HashMap Nat Nat :=
  pointersOf japanese (fun p => p < 8272 || p > 8835) fun _ => false

/-! ## Characters of four bytes -/

/-- Read a pair of numbers parted by a colon. -/
def readPair (word : List Char) : Nat × Nat :=
  match cut? [':'] word with
  | some (a, b) => (hexValue a, hexValue b)
  | none => (0, 0)

/-- Where runs of pointers of four bytes begin, and the characters they begin
with. -/
def chineseRanges : Array (Nat × Nat) := ((tableWords chineseRangeData).map readPair).toArray

/-- The character of a pointer of four bytes. -/
def rangeChar? (pointer : Nat) : Option Char :=
  if (pointer > 39419 && pointer < 189000) || pointer > 1237575 then none
  else if pointer = 7457 then some '\uE7C7'
  else
    let i := lastAtMost (fun i => (chineseRanges.getD i (0, 0)).1) pointer 0 chineseRanges.size 16
    let (start, first) := chineseRanges.getD i (0, 0)
    some (Char.ofNat (first + (pointer - start)))

/-- The pointer of four bytes of a character that has none of two. -/
def rangePointer (c : Nat) : Nat :=
  if c = 0xE7C7 then 7457
  else
    let i := lastAtMost (fun i => (chineseRanges.getD i (0, 0)).2) c 0 chineseRanges.size 16
    let (start, first) := chineseRanges.getD i (0, 0)
    start + (c - first)

/-! ## Encodings of one byte -/

/-- The characters of the bytes from 128 on of each encoding of one byte. -/
def singleTables : List (String × Array Nat) :=
  singleByteTable.map fun (name, data) => (name, readChars data)

/-- The characters of the bytes from 128 on of an encoding of one byte.  One
encoding is the same as another but for the order in which it is shown. -/
def singleTable (name : String) : Array Nat :=
  let name := if name = "ISO-8859-8-I" then "ISO-8859-8" else name
  (singleTables.lookup name).getD #[]

end Folio.Charset
