import Folio.Text.Table
import Folio.Unicode.CategoryTable

/-!
# Folio.Unicode.Category

General categories of characters, named by two letters: the first tells the
class (`L` letters, `M` marks, `N` numbers, `P` punctuation, `S` symbols, `Z`
separators, `C` others), both together the category.
-/

namespace Folio.Unicode

open Folio.Text

/-- Read one run of the table: the number of its first character and its
category. -/
def readCategoryRun (word : List Char) : Nat × String :=
  let (number, category) := word.span fun c => !('A' ≤ c && c ≤ 'Z')
  (hexValue number, String.ofList category)

/-- The runs of characters that share a category. -/
def categoryRuns : Array (Nat × String) := ((tableWords categoryData).map readCategoryRun).toArray

/-- The category of a character. -/
def category (c : Char) : String :=
  let i := lastAtMost (fun i => (categoryRuns.getD i (0, "Cn")).1) c.toNat 0 categoryRuns.size 32
  (categoryRuns.getD i (0, "Cn")).2

/-- The runs with the last character of each. -/
def closedRuns : List (Nat × String) → List (Nat × Nat × String)
  | [] => []
  | [(start, name)] => [(start, 0x10FFFF, name)]
  | (start, name) :: (next, other) :: rest =>
    (start, next - 1, name) :: closedRuns ((next, other) :: rest)

/-- The ranges of characters whose category has the property `p`. -/
def categoryRanges (p : String → Bool) : List (Nat × Nat) :=
  (closedRuns categoryRuns.toList).filterMap fun (low, high, name) =>
    if p name then some (low, high) else none

end Folio.Unicode
