/-!
# Folio.Json.Binary64

Finite double-precision numbers in exact arithmetic.  A number is a sign and
a value `significand · 2 ^ exponent` in its one normal form; every operation
is computed over the integers and rounded once, to the nearest number and of
two equally near ones to the one with the even significand.
-/

namespace Folio.Json

/-- A finite double: `significand` is below `2 ^ 53`, `exponent` is at least
`-1074`, and `significand` is at least `2 ^ 52` unless `exponent` is `-1074`. -/
structure Binary64 where
  negative : Bool
  significand : Nat
  exponent : Int
deriving DecidableEq, Repr, Inhabited

namespace Binary64

/-- Zero, with its sign. -/
def zero (negative : Bool) : Binary64 := ⟨negative, 0, -1074⟩

/-- The number is zero. -/
def isZero (x : Binary64) : Bool := x.significand == 0

/-- The quotient of two integers rounded to the nearest integer, a half to
the even neighbour. -/
def roundQuotient (num den : Nat) : Nat :=
  let q := num / den
  let r := num % den
  if 2 * r < den then q
  else if den < 2 * r then q + 1
  else if q % 2 = 0 then q else q + 1

/-- A power of two times a number, as numerator and denominator. -/
def scale (num den : Nat) (k : Int) : Nat × Nat :=
  if 0 ≤ k then (num * Nat.pow 2 k.toNat, den) else (num, den * Nat.pow 2 (-k).toNat)

/-- The largest `k` with `2 ^ k ≤ num / den`, for positive integers. -/
def floorLog2 (num den : Nat) : Int :=
  let k : Int := (num.log2 : Int) - (den.log2 : Int)
  let (n, d) := scale num den (-k)
  if d ≤ n then k else k - 1

/-- The number nearest to `num / den`, or nothing when it exceeds the largest
finite one. -/
def ofRatio? (negative : Bool) (num den : Nat) : Option Binary64 :=
  if num = 0 then some (zero negative)
  else
    let exponent := max (floorLog2 num den - 52) (-1074)
    let (n, d) := scale num den (-exponent)
    let m := roundQuotient n d
    let (m, exponent) := if m = Nat.pow 2 53 then (Nat.pow 2 52, exponent + 1) else (m, exponent)
    if exponent > 971 then none else some ⟨negative, m, exponent⟩

/-- The number's magnitude, as numerator and denominator. -/
def ratio (x : Binary64) : Nat × Nat := scale x.significand 1 x.exponent

/-- The product, with the sign of the first factor. -/
def mul? (x y : Binary64) : Option Binary64 :=
  let (a, b) := x.ratio
  let (c, d) := y.ratio
  ofRatio? x.negative (a * c) (b * d)

/-- The quotient, with the sign of the dividend. -/
def div? (x y : Binary64) : Option Binary64 :=
  let (a, b) := x.ratio
  let (c, d) := y.ratio
  if c = 0 then none else ofRatio? x.negative (a * d) (b * c)

/-- The double nearest to `10 ^ n`, for `n` up to 308. -/
def powerOfTen? (n : Nat) : Option Binary64 :=
  if n ≤ 308 then ofRatio? false (Nat.pow 10 n) 1 else none

/-- A decimal `digits · 10 ^ exponent` read by one multiplication or division
with a power of ten; powers beyond the largest are taken off in steps of 308.
Nothing comes of a number that is too large, and of one too small comes zero. -/
def ofDecimal? (negative : Bool) (digits : Nat) (exponent : Int) : Option Binary64 := do
  let start ← ofRatio? negative digits 1
  if start.isZero then return start
  if 0 ≤ exponent then
    start.mul? (← powerOfTen? exponent.toNat)
  else
    let steps := ((-exponent).toNat - 1) / 308
    let rest := (-exponent).toNat - 308 * min steps 3
    let large ← powerOfTen? 308
    let reduced ← (List.range (min steps 3)).foldlM (fun x _ => x.div? large) start
    if reduced.isZero then return reduced
    match powerOfTen? rest with
    | some power => reduced.div? power
    | none => return zero negative

end Binary64

end Folio.Json
