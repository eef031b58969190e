import Folio.Text.Ascii
import Folio.Text.Utf8

/-!
# Folio.Url.Percent

Percent-encoding.  A byte is written as `%` and two capital hexadecimal digits;
which characters are kept as they are depends on the part of the URL.
-/

namespace Folio.Url

open Folio.Text

/-- A byte in percent-encoding. -/
def encodeByte (b : UInt8) : List Char :=
  ['%', hexDigitUpper (b.toNat / 16), hexDigitUpper (b.toNat % 16)]

/-- Bytes in percent-encoding, those of kept ASCII characters as they are. -/
def encodeBytes (keep : Char → Bool) (bytes : List UInt8) : List Char :=
  bytes.flatMap fun b =>
    if b < 128 && keep (Char.ofNat b.toNat) then [Char.ofNat b.toNat] else encodeByte b

/-- A text in percent-encoding by its UTF-8 bytes. -/
def encodeText (keep : Char → Bool) (s : List Char) : List Char :=
  encodeBytes keep (Utf8.encode s)

/-- The bytes of a text with its percent-encoding undone; `skip` characters
belong to a byte that has been decoded. -/
def decodeBytesFrom (skip : Nat) : List Char → List UInt8
  | [] => []
  | c :: cs =>
    match skip with
    | skip + 1 => decodeBytesFrom skip cs
    | 0 =>
      match c, cs with
      | '%', a :: b :: _ =>
        match hexDigit? a, hexDigit? b with
        | some hi, some lo => UInt8.ofNat (hi * 16 + lo) :: decodeBytesFrom 2 cs
        | _, _ => String.utf8EncodeChar c ++ decodeBytesFrom 0 cs
      | c, _ => String.utf8EncodeChar c ++ decodeBytesFrom 0 cs

/-- The bytes of a text with its percent-encoding undone. -/
def decodeBytes (s : List Char) : List UInt8 := decodeBytesFrom 0 s

/-! ## What the parts of a URL keep -/

/-- A printable ASCII character. -/
def isPrintable (c : Char) : Bool := 0x20 ≤ c.toNat && c.toNat ≤ 0x7E

/-- A character kept in an opaque path and an opaque host. -/
def keptOpaque (c : Char) : Bool := isPrintable c

/-- A character kept in a fragment. -/
def keptInFragment (c : Char) : Bool :=
  isPrintable c && !(c == ' ' || c == '"' || c == '<' || c == '>' || c == '\x60')

/-- A character kept in a path. -/
def keptInPath (c : Char) : Bool :=
  keptInFragment c && !(c == '#' || c == '?' || c == '\x7b' || c == '\x7d')

/-- A character kept in a user name or password. -/
def keptInCredentials (c : Char) : Bool :=
  keptInPath c && !(c == '/' || c == ':' || c == ';' || c == '=' || c == '@' || c == '[' ||
    c == '\\' || c == ']' || c == '^' || c == '|')

/-- A character kept in a query; a quotation mark only outside web addresses. -/
def keptInQuery (special : Bool) (c : Char) : Bool :=
  isPrintable c && !(c == ' ' || c == '"' || c == '#' || c == '<' || c == '>' ||
    (special && c == '\''))

end Folio.Url
