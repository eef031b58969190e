import Std.Data.HashMap
import Folio.Text.Exchange
import Folio.Text.Utf8
import Folio.Url.NameTable
import Folio.Url.Punycode

/-!
# Folio.Url.Name

Internationalized host names.  Characters are exchanged as the table says; a
name in which a forbidden character remains is refused; labels with characters
beyond ASCII are written in Punycode with the mark `xn--`.
-/

namespace Folio.Url

open Folio.Text

/-! ## Tables -/

/-- What characters are exchanged for. -/
def exchanges : Std.HashMap Nat (List Char) := exchangeTable exchangedData expandedData

/-- Characters that are left out. -/
def omitted : Array (Nat × Nat) := tableRanges omittedData

/-- Characters that no name may hold. -/
def forbidden : Array (Nat × Nat) := tableRanges forbiddenData

/-! ## Names -/

/-- What a character of a name becomes; nothing when no name may hold it. -/
def exchangedChar? (c : Char) : Option (List Char) :=
  let n := c.toNat
  if n < 128 then some [lowerAscii c]
  else
    match exchanges.get? n with
    | some cs => some cs
    | none =>
      if inRanges omitted n then some []
      else if inRanges forbidden n then none
      else some [c]

/-- What the characters of a name become. -/
def exchanged? : List Char → Option (List Char)
  | [] => some []
  | c :: rest => do
    let first ← exchangedChar? c
    let others ← exchanged? rest
    some (first ++ others)

/-- An ASCII character that no host name may hold. -/
def isForbiddenAscii (c : Char) : Bool :=
  c.toNat ≤ 0x20 || c.toNat == 0x7F || c == '#' || c == '%' || c == '/' || c == ':' ||
    c == '<' || c == '>' || c == '?' || c == '@' || c == '[' || c == '\\' || c == ']' ||
    c == '^' || c == '|'

/-- The mark of a label in Punycode. -/
def punycodeMark : List Char := "xn--".toList

/-- A label as it is written in ASCII. -/
def labelToAscii? (label : List Char) : Option (List Char) :=
  match stripPrefix? punycodeMark label with
  | some coded =>
    match Punycode.decode? coded with
    | none => none
    | some decoded =>
      if decoded.all (·.toNat < 128) || exchanged? decoded != some decoded ||
          Punycode.encode decoded != coded then none
      else some label
  | none =>
    if label.all (·.toNat < 128) then some label
    else some (punycodeMark ++ Punycode.encode label)

/-- The labels as they are written in ASCII. -/
def labelsToAscii? : List (List Char) → Option (List (List Char))
  | [] => some []
  | label :: rest => do
    let first ← labelToAscii? label
    let others ← labelsToAscii? rest
    some (first :: others)

/-- All characters, when no sequence is malformed. -/
def wellFormed? : List (Option Char) → Option (List Char)
  | [] => some []
  | none :: _ => none
  | some c :: rest => (wellFormed? rest).map (c :: ·)

/-- A host name, given by its bytes, as it is written in ASCII. -/
def nameToAscii? (bytes : List UInt8) : Option (List Char) := do
  let text ← wellFormed? (Utf8.scan Utf8.start bytes)
  let name ← exchanged? text
  let labels ← labelsToAscii? (splitWhere (· == '.') name)
  let ascii := ['.'].intercalate labels
  if ascii.any isForbiddenAscii then none else some ascii

end Folio.Url
