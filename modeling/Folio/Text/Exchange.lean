import Std.Data.HashMap
import Folio.Text.Table

/-!
# Folio.Text.Exchange

Tables that exchange characters for others.  A table is a text of words, all
numbers hexadecimal: `a:b` exchanges one character for another, `a+n:b` a run
of `n` characters from `a` on, `a*n:b` every second one of such a run, and
`a:b.c` one character for several.
-/

namespace Folio.Text

/-- A run of characters exchanged for others. -/
structure ExchangeRun where
  start : Nat
  count : Nat
  step : Nat
  target : Nat

/-- Read a run. -/
def ExchangeRun.read (word : List Char) : ExchangeRun :=
  match cut? [':'] word with
  | none => ⟨0, 0, 1, 0⟩
  | some (source, target) =>
    let target := hexValue target
    match cut? ['+'] source, cut? ['*'] source with
    | some (start, count), _ => ⟨hexValue start, hexValue count, 1, target⟩
    | _, some (start, count) => ⟨hexValue start, hexValue count, 2, target⟩
    | _, _ => ⟨hexValue source, 1, 1, target⟩

/-- The characters that the run names, with what they are exchanged for. -/
def ExchangeRun.pairs (r : ExchangeRun) : List (Nat × Nat) :=
  (List.range r.count).map fun i => (r.start + r.step * i, r.target + r.step * i)

/-- Read a character exchanged for several. -/
def readExpanded (word : List Char) : Nat × List Char :=
  match cut? [':'] word with
  | none => (0, [])
  | some (source, targets) =>
    (hexValue source, (splitWhere (· == '.') targets).map fun t => Char.ofNat (hexValue t))

/-- The pairs that a table of single exchanges lists. -/
def exchangePairs (single : String) : List (Nat × Nat) :=
  (tableWords single).flatMap fun word => (ExchangeRun.read word).pairs

/-- What characters are exchanged for, by a table of single exchanges and one
of exchanges for several. -/
def exchangeTable (single expanded : String) : Std.HashMap Nat (List Char) :=
  Std.HashMap.ofList
    ((exchangePairs single).map (fun (source, target) => (source, [Char.ofNat target])) ++
      (tableWords expanded).map readExpanded)

end Folio.Text
