import Folio.Text.Table
import Folio.Unicode.LetterCase

/-!
# Folio.Regex.CharSet

Sets of characters as ascending ranges of numbers that neither overlap nor
touch.  Every set is built by `ofRanges`, which puts any ranges into this form.
-/

namespace Folio.Regex

open Folio.Text

/-- A set of characters. -/
structure CharSet where
  /-- Ascending ranges, each from its first to its last number. -/
  ranges : List (Nat × Nat)
deriving DecidableEq, Repr

namespace CharSet

/-- Join ranges that overlap or touch; `low` to `high` is the range before
them, and they begin in ascending order. -/
def joined (low high : Nat) : List (Nat × Nat) → List (Nat × Nat)
  | [] => [(low, high)]
  | (a, b) :: rest =>
    if a ≤ high + 1 then joined low (max high b) rest
    else (low, high) :: joined a b rest

/-- The set of the characters in any of the ranges. -/
def ofRanges (ranges : List (Nat × Nat)) : CharSet :=
  match ranges.mergeSort fun a b => a.1 ≤ b.1 with
  | [] => ⟨[]⟩
  | (low, high) :: rest => ⟨joined low high rest⟩

/-- The set that holds nothing. -/
def empty : CharSet := ⟨[]⟩

/-- The set of one character. -/
def single (c : Char) : CharSet := ⟨[(c.toNat, c.toNat)]⟩

/-- The set of the characters of a text. -/
def ofText (s : String) : CharSet := ofRanges (s.toList.map fun c => (c.toNat, c.toNat))

/-- The greatest number of a character. -/
def lastNumber : Nat := 0x10FFFF

/-- The gaps between ascending ranges, from `low` on. -/
def gaps (low : Nat) : List (Nat × Nat) → List (Nat × Nat)
  | [] => if low ≤ lastNumber then [(low, lastNumber)] else []
  | (a, b) :: rest =>
    if low < a then (low, a - 1) :: gaps (b + 1) rest else gaps (b + 1) rest

/-- The characters not in the set. -/
def complement (s : CharSet) : CharSet := ⟨gaps 0 s.ranges⟩

/-- The characters in either set. -/
def union (s t : CharSet) : CharSet := ofRanges (s.ranges ++ t.ranges)

/-- The characters in both sets. -/
def inter (s t : CharSet) : CharSet := (s.complement.union t.complement).complement

/-- The characters in the first set only. -/
def diff (s t : CharSet) : CharSet := s.inter t.complement

/-- The characters in exactly one of the sets. -/
def symmDiff (s t : CharSet) : CharSet := (s.diff t).union (t.diff s)

/-- All characters. -/
def all : CharSet := empty.complement

/-- The number lies in the set. -/
def holds (s : CharSet) (n : Nat) : Bool := s.ranges.any fun (low, high) => low ≤ n && n ≤ high

/-- The set with every letter that differs in case alone from one of it. -/
def caseClosed (s : CharSet) : CharSet :=
  let members := inRanges s.ranges.toArray
  let added := Unicode.caseGroups.fold
    (fun acc _ group => if group.any members then group ++ acc else acc) []
  if added.isEmpty then s else s.union (ofRanges (added.map fun n => (n, n)))

/-- The letters of ASCII and their other case, for a set of ASCII characters. -/
def caseClosedAscii (s : CharSet) : CharSet :=
  let small := (List.range 26).filter fun i => s.holds (97 + i) || s.holds (65 + i)
  s.union (ofRanges (small.flatMap fun i => [(97 + i, 97 + i), (65 + i, 65 + i)]))

/-- All characters of the set are ASCII. -/
def isAscii (s : CharSet) : Bool := s.ranges.all fun (_, high) => high < 128

end CharSet

end Folio.Regex
