import Folio.Json.Binary64

/-!
# Folio.Json.Shortest

The shortest decimal that reads back as a given double.  The reals that round
to the double form an interval; among the decimals in it with the fewest
digits the one nearest to the double is taken.  `Binary64.text` writes it:
positional from `1e-5` up to below `1e16`, with an exponent outside that range.
-/

namespace Folio.Json

/-- A decimal: the number its digits form, times a power of ten. -/
structure Decimal where
  digits : Nat
  exponent : Int
deriving DecidableEq, Repr

namespace Binary64

/-- The reals that round to a positive double lie from `low / den` to
`high / den`, the ends included when `closed`; the double is `mid / den`. -/
structure Interval where
  low : Nat
  mid : Nat
  high : Nat
  den : Nat
  closed : Bool

/-- The interval of a positive double.  The gap below a power of two is half
the gap above it. -/
def interval (x : Binary64) : Interval :=
  let below := if x.significand = Nat.pow 2 52 ∧ x.exponent ≠ -1074 then 1 else 2
  let m := 4 * x.significand
  let (mid, den) := scale m 4 x.exponent
  let (low, _) := scale (m - below) 4 x.exponent
  let (high, _) := scale (m + 2) 4 x.exponent
  ⟨low, mid, high, den, x.significand % 2 == 0⟩

namespace Interval

/-- The decimal place of the leading digit: the largest `k` with
`10 ^ k ≤ mid / den`. -/
def leadingPlace (i : Interval) : Int :=
  if i.den ≤ i.mid then ((Nat.toDigits 10 (i.mid / i.den)).length : Int) - 1
  else
    let n := (Nat.toDigits 10 (i.den / i.mid)).length
    if i.den ≤ i.mid * Nat.pow 10 (n - 1) then -((n : Int) - 1) else -(n : Int)

/-- The interval measured in units of `10 ^ k`. -/
def inUnits (i : Interval) (k : Int) : Interval :=
  if 0 ≤ k then { i with den := i.den * Nat.pow 10 k.toNat }
  else
    let p := Nat.pow 10 (-k).toNat
    { i with low := i.low * p, mid := i.mid * p, high := i.high * p }

/-- The integer lies in the interval. -/
def holds (i : Interval) (n : Nat) : Bool :=
  let v := n * i.den
  if i.closed then i.low ≤ v && v ≤ i.high else i.low < v && v < i.high

/-- The integer of the interval nearest to its middle, if one of the middle's
two neighbours lies in it. -/
def nearest? (i : Interval) : Option Nat :=
  let below := i.mid / i.den
  let above := below + 1
  match i.holds below, i.holds above with
  | true, true =>
    let gapBelow := i.mid - below * i.den
    let gapAbove := above * i.den - i.mid
    if gapBelow < gapAbove then some below
    else if gapAbove < gapBelow then some above
    else some (if below % 2 = 0 then below else above)
  | true, false => some below
  | false, true => some above
  | false, false => none

end Interval

/-- The decimal with `n + 1` digits or fewer that lies in the interval. -/
def withDigits? (i : Interval) (n : Nat) : Option Decimal :=
  let place := i.leadingPlace - n
  (i.inUnits place).nearest?.map fun digits => ⟨digits, place⟩

/-- The shortest decimal that reads back as a positive double. -/
def shortest (x : Binary64) : Decimal :=
  let i := x.interval
  ((List.range 17).findSome? (withDigits? i)).getD ⟨x.significand, x.exponent⟩

/-- The text of a decimal given by its digits and the place of the first. -/
def placed (digits : List Char) (place : Int) : List Char :=
  if -5 ≤ place ∧ place < 16 then
    if place < 0 then
      '0' :: '.' :: (List.replicate (-place - 1).toNat '0' ++ digits)
    else
      let whole := digits.take (place.toNat + 1)
      let fraction := digits.drop (place.toNat + 1)
      whole ++ List.replicate (place.toNat + 1 - digits.length) '0' ++
        '.' :: (if fraction.isEmpty then ['0'] else fraction)
  else
    let tail := digits.drop 1
    digits.take 1 ++ (if tail.isEmpty then [] else '.' :: tail) ++
      'e' :: (if place < 0 then '-' else '+') :: Nat.toDigits 10 place.natAbs

/-- The text of a double. -/
def text (x : Binary64) : String :=
  let sign := if x.negative then ['-'] else []
  if x.isZero then String.ofList (sign ++ ['0', '.', '0'])
  else
    let d := x.shortest
    let all := Nat.toDigits 10 d.digits
    let place := d.exponent + (all.length : Int) - 1
    let digits := (all.reverse.dropWhile (· == '0')).reverse
    String.ofList (sign ++ placed digits place)

end Binary64

end Folio.Json
