import Folio.Text.Exchange
import Folio.Unicode.CaseTable
import Folio.Unicode.Property

/-!
# Folio.Unicode.LetterCase

Capitals and small letters of texts, and the groups of letters that differ in
case alone.
-/

namespace Folio.Unicode

open Folio.Text

/-- Capital forms. -/
def capitals : Std.HashMap Nat (List Char) := exchangeTable capitalData capitalExpandedData

/-- Small forms. -/
def smalls : Std.HashMap Nat (List Char) := exchangeTable smallData smallExpandedData

/-- The text in capitals. -/
def toUpper (s : String) : String :=
  String.ofList (s.toList.flatMap fun c => (capitals.get? c.toNat).getD [c])

/-- The first character that can part or case letters has case. -/
def meetsCased (s : List Char) : Bool :=
  match s.dropWhile fun c => inRanges caseIgnorable c.toNat with
  | [] => false
  | c :: _ => inRanges cased c.toNat

/-- The small letters of a text; `before` is the text that stands before it,
last character first.  A sigma that ends a word has a form of its own. -/
def smallLetters (before : List Char) : List Char → List Char
  | [] => []
  | c :: rest =>
    let small :=
      if c = 'Σ' then (if meetsCased before && !meetsCased rest then ['ς'] else ['σ'])
      else (smalls.get? c.toNat).getD [c]
    small ++ smallLetters (c :: before) rest

/-- The text in small letters. -/
def toLower (s : String) : String := String.ofList (smallLetters [] s.toList)

/-! ## Letters that differ in case alone -/

/-- Letters that differ in case alone, grouped. -/
def caseGroups : Std.HashMap Nat (List Nat) :=
  (exchangePairs foldData).foldl
    (fun groups (letter, folded) =>
      groups.insert folded (letter :: (groups.get? folded).getD [folded])) {}

/-- For each letter of a group the group. -/
def caseGroupOf : Std.HashMap Nat (List Nat) :=
  caseGroups.fold (fun all _ group => group.foldl (fun all c => all.insert c group) all) {}

end Folio.Unicode
