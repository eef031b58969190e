import Folio.Unicode.Category
import Folio.Unicode.Property

/-!
# Folio.Unicode.Word

The characters of words: letters, marks, decimal digits, connecting
punctuation and the two joining controls.
-/

namespace Folio.Unicode

open Folio.Text

/-- A category all of whose characters belong to words. -/
def isWordCategory (name : String) : Bool :=
  name == "Mn" || name == "Mc" || name == "Me" || name == "Nd" || name == "Pc"

/-- The ranges of the characters of words; they may overlap. -/
def wordRanges : List (Nat × Nat) :=
  (0x200C, 0x200D) :: propertyRanges "Alphabetic" ++ categoryRanges isWordCategory

/-- A character of words. -/
def isWord (c : Char) : Bool :=
  let n := c.toNat
  if n < 128 then isAsciiAlnum c || c == '_'
  else isAlphabetic c || isWordCategory (category c) || n == 0x200C || n == 0x200D

/-- A letter or a character that denotes a number. -/
def isAlphanumeric (c : Char) : Bool :=
  isAlphabetic c || (category c).startsWith "N"

end Folio.Unicode
