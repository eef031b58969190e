import Folio.Markup.Entities

/-!
# Folio.Markup.Reference

Character references.  `reference?` reads one as a browser does, with its
rules for missing semicolons; `decodeClosed` decodes, in a text that is no
longer markup, exactly the references that a semicolon closes.
-/

namespace Folio.Markup

open Folio.Text

/-! ## References in markup -/

/-- The characters that the numbers from 128 to 159 stand for; zero marks the
numbers that keep their own. -/
def westernTable : Array Nat :=
  #[0x20AC, 0, 0x201A, 0x0192, 0x201E, 0x2026, 0x2020, 0x2021, 0x02C6, 0x2030, 0x0160,
    0x2039, 0x0152, 0, 0x017D, 0, 0, 0x2018, 0x2019, 0x201C, 0x201D, 0x2022, 0x2013,
    0x2014, 0x02DC, 0x2122, 0x0161, 0x203A, 0x0153, 0, 0x017E, 0x0178]

/-- The character that a numeric reference stands for. -/
def numbered (n : Nat) : Char :=
  if n = 0 ∨ n > 0x10FFFF ∨ (0xD800 ≤ n ∧ n ≤ 0xDFFF) then '\uFFFD'
  else if 0x80 ≤ n ∧ n ≤ 0x9F then
    let c := westernTable.getD (n - 0x80) 0
    Char.ofNat (if c = 0 then n else c)
  else Char.ofNat n

/-- The text without the semicolon it may begin with. -/
def skipSemicolon : List Char → List Char
  | ';' :: rest => rest
  | rest => rest

/-- A numeric reference, after the number sign. -/
def numericReference? (s : List Char) : Option (List Char × List Char) :=
  let hex := match s with
    | 'x' :: rest => some rest
    | 'X' :: rest => some rest
    | _ => none
  match hex with
  | some rest =>
    let digits := rest.takeWhile fun c => (hexDigit? c).isSome
    if digits.isEmpty then none
    else some ([numbered (hexValue digits)], skipSemicolon (rest.drop digits.length))
  | none =>
    let digits := s.takeWhile isAsciiDigit
    if digits.isEmpty then none
    else some ([numbered (decimalValue digits)], skipSemicolon (s.drop digits.length))

/-- The longest name of at most `n` characters at the front of `s` that needs
no semicolon. -/
def legacyPrefix? (s : List Char) : Nat → Option Nat
  | 0 => none
  | n + 1 =>
    if isLegacy (String.ofList (s.take (n + 1))) then some (n + 1) else legacyPrefix? s n

/-- A named reference.  Within an attribute, a name without semicolon before a
letter, a digit or an equals sign is no reference. -/
def namedReference? (inAttribute : Bool) (s : List Char) : Option (List Char × List Char) :=
  let run := s.takeWhile isAsciiAlnum
  let rest := s.drop run.length
  let closed := match rest with
    | ';' :: rest => (entity? (String.ofList run)).map fun text => (text.toList, rest)
    | _ => none
  match closed with
  | some result => some result
  | none => do
    let n ← legacyPrefix? run (min run.length longestName)
    let text ← entity? (String.ofList (run.take n))
    let rest := s.drop n
    match inAttribute, rest with
    | true, c :: _ =>
      if c = '=' ∨ isAsciiAlnum c then none else some (text.toList, rest)
    | _, _ => some (text.toList, rest)

/-- The characters that a reference stands for, and what follows it, given the
text after an ampersand. -/
def reference? (inAttribute : Bool) : List Char → Option (List Char × List Char)
  | [] => none
  | '#' :: rest => numericReference? rest
  | c :: rest => if isAsciiAlnum c then namedReference? inAttribute (c :: rest) else none

/-! ## References in plain text -/

/-- The character with a number, when there is one. -/
def character? (n : Nat) : Option Char :=
  if n ≤ 0x10FFFF ∧ ¬ (0xD800 ≤ n ∧ n ≤ 0xDFFF) then some (Char.ofNat n) else none

/-- The text that the inside of a closed reference stands for. -/
def closedReference? : List Char → Option (List Char)
  | '#' :: 'x' :: digits => hex? digits
  | '#' :: 'X' :: digits => hex? digits
  | '#' :: digits => do
    let c ← character? (← natural? digits)
    return [c]
  | name => (entity? (String.ofList name)).map String.toList
where
  /-- The character that hexadecimal digits number. -/
  hex? (digits : List Char) : Option (List Char) :=
    if digits ≠ [] ∧ digits.all (fun c => (hexDigit? c).isSome) then
      (character? (hexValue digits)).map fun c => [c]
    else none

/-- A character that may stand between an ampersand and its semicolon. -/
def isReferenceChar (c : Char) : Bool := isAsciiAlnum c || c == '#'

/-- Decode the references closed by a semicolon; all else stays as it is.
`skip` characters belong to a reference that has been decoded. -/
def decodeFrom (skip : Nat) : List Char → List Char
  | [] => []
  | c :: cs =>
    match skip with
    | skip + 1 => decodeFrom skip cs
    | 0 =>
      if c = '&' then
        let inside := cs.takeWhile isReferenceChar
        match (cs.drop inside.length).head?, closedReference? inside with
        | some ';', some text => text ++ decodeFrom (inside.length + 1) cs
        | _, _ => c :: decodeFrom 0 cs
      else c :: decodeFrom 0 cs

/-- Decode the references closed by a semicolon, from left to right in one
pass; all else stays as it is. -/
def decodeClosed (s : List Char) : List Char := decodeFrom 0 s

end Folio.Markup
