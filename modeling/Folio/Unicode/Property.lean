import Folio.Text.Table
import Folio.Unicode.PropertyTable
import Folio.Unicode.ScriptTable

/-!
# Folio.Unicode.Property

Properties and scripts of characters, found by their names.  Names are
compared loosely: case, spaces, hyphens and underscores do not count, and `is`
may stand before a name.
-/

namespace Folio.Unicode

open Folio.Text

/-- A class of characters and the names it is known by. -/
structure NamedClass where
  names : List (List Char)
  ranges : List (Nat × Nat)

/-- A name as it is compared. -/
def looseName (name : List Char) : List Char :=
  let compared := name.filter fun c => c.toNat < 128 && c != ' ' && c != '_' && c != '-'
  let plain := compared.map lowerAscii
  match name.map lowerAscii, plain with
  | 'i' :: 's' :: _, 'i' :: 's' :: 'c' :: [] => plain
  | 'i' :: 's' :: _, 'i' :: 's' :: rest => rest
  | _, _ => plain

/-- Read the classes of a table: names, which are parted by colons, begin a
class, and ranges belong to the class before them. -/
def readClasses (words : List (List Char)) : List NamedClass :=
  words.foldr (fun word acc =>
    if word.contains ':' then
      { names := (splitWhere (· == ':') word).map looseName, ranges := acc.1 } :: acc.2
      |> ([], ·)
    else (tableRange word :: acc.1, acc.2)) (([], []) : List (Nat × Nat) × List NamedClass)
  |>.2

/-- The properties a character has or has not. -/
def properties : List NamedClass := readClasses (tableWords propertyData)

/-- The scripts. -/
def scripts : List NamedClass := readClasses (tableWords scriptData)

/-- The ranges of the class with a name, given as it is compared. -/
def classNamed? (classes : List NamedClass) (name : List Char) : Option (List (Nat × Nat)) :=
  (classes.find? (·.names.contains name)).map (·.ranges)

/-- The ranges of a property of the table. -/
def propertyRanges (name : String) : List (Nat × Nat) :=
  (classNamed? properties (looseName name.toList)).getD []

/-- The characters that are letters. -/
def alphabetic : Array (Nat × Nat) := (propertyRanges "Alphabetic").toArray

/-- The character is a letter. -/
def isAlphabetic (c : Char) : Bool := inRanges alphabetic c.toNat

/-- Characters that have case. -/
def cased : Array (Nat × Nat) := (propertyRanges "Cased").toArray

/-- Characters that do not part the letters of a word. -/
def caseIgnorable : Array (Nat × Nat) := (propertyRanges "Case_Ignorable").toArray

end Folio.Unicode
