import Folio.Charset.LabelTable
import Folio.Text.Blank
import Folio.Text.Table

/-!
# Folio.Charset.Basic

The character encodings of web pages, the labels that declare them, and the
marks that betray them at the beginning of a text.
-/

namespace Folio

open Folio.Text

/-- A character encoding. -/
inductive Charset where
  | utf8
  | utf16 (bigEndian : Bool)
  | gbk
  | gb18030
  | big5
  | eucJp
  | iso2022Jp
  | shiftJis
  | eucKr
  /-- Stands for encodings that are not decoded. -/
  | replacement
  | userDefined
  /-- An encoding with one byte for each character, by its name. -/
  | single (name : String)
deriving DecidableEq, Repr

namespace Charset

/-- The name of an encoding. -/
def name : Charset → String
  | utf8 => "UTF-8"
  | utf16 true => "UTF-16BE"
  | utf16 false => "UTF-16LE"
  | gbk => "GBK"
  | gb18030 => "gb18030"
  | big5 => "Big5"
  | eucJp => "EUC-JP"
  | iso2022Jp => "ISO-2022-JP"
  | shiftJis => "Shift_JIS"
  | eucKr => "EUC-KR"
  | replacement => "replacement"
  | userDefined => "x-user-defined"
  | single name => name

/-- The encoding with a name. -/
def ofName (name : String) : Charset :=
  match name with
  | "UTF-8" => utf8
  | "UTF-16BE" => utf16 true
  | "UTF-16LE" => utf16 false
  | "GBK" => gbk
  | "gb18030" => gb18030
  | "Big5" => big5
  | "EUC-JP" => eucJp
  | "ISO-2022-JP" => iso2022Jp
  | "Shift_JIS" => shiftJis
  | "EUC-KR" => eucKr
  | "replacement" => replacement
  | "x-user-defined" => userDefined
  | name => single name

/-- The western encoding, which has a character for every byte. -/
def western : Charset := single "windows-1252"

/-- The labels of the encodings. -/
def labels : List (List Char × Charset) :=
  labelTable.flatMap fun (name, words) => (tableWords words).map fun w => (w, ofName name)

/-- The encoding that a label declares; case does not count, nor do ASCII
blanks around it. -/
def forLabel? (label : List Char) : Option Charset :=
  labels.lookup ((dropEndWhile isAsciiBlank (label.dropWhile isAsciiBlank)).map lowerAscii)

/-- The encoding whose mark the bytes begin with, and the bytes after the
mark. -/
def forMark? : List UInt8 → Option (Charset × List UInt8)
  | 0xEF :: 0xBB :: 0xBF :: rest => some (utf8, rest)
  | 0xFF :: 0xFE :: rest => some (utf16 false, rest)
  | 0xFE :: 0xFF :: rest => some (utf16 true, rest)
  | _ => none

end Charset

end Folio
