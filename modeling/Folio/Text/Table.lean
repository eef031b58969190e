import Folio.Text.Ascii
import Folio.Text.Search

/-!
# Folio.Text.Table

Reading the tables of characters that other modules hold as text, and looking
characters up in sorted ranges.
-/

namespace Folio.Text

/-- The words of a table, parted by spaces and line ends. -/
def tableWords (data : String) : List (List Char) :=
  (splitWhere (fun c => c == ' ' || c == '\n') data.toList).filter (!·.isEmpty)

/-- The number that hexadecimal digits form. -/
def hexValue (digits : List Char) : Nat :=
  digits.foldl (fun n c => n * 16 + (hexDigit? c).getD 0) 0

/-- A range of characters: `a` or `a-b`. -/
def tableRange (word : List Char) : Nat × Nat :=
  match cut? ['-'] word with
  | some (low, high) => (hexValue low, hexValue high)
  | none => (hexValue word, hexValue word)

/-- The ranges of a table, in the order given. -/
def tableRanges (data : String) : Array (Nat × Nat) := ((tableWords data).map tableRange).toArray

/-- The last index below `high` and not below `low` whose entry begins at most
at `n`, in entries sorted by their beginnings; `fuel` bounds the halvings. -/
def lastAtMost (start : Nat → Nat) (n : Nat) (low high : Nat) : Nat → Nat
  | 0 => low
  | fuel + 1 =>
    if high ≤ low + 1 then low
    else
      let middle := (low + high) / 2
      if start middle ≤ n then lastAtMost start n middle high fuel
      else lastAtMost start n low middle fuel

/-- The number lies in one of the sorted ranges. -/
def inRanges (ranges : Array (Nat × Nat)) (n : Nat) : Bool :=
  let i := lastAtMost (fun i => (ranges.getD i (0, 0)).1) n 0 ranges.size 32
  match ranges[i]? with
  | some (low, high) => low ≤ n && n ≤ high
  | none => false

end Folio.Text
