/-!
# Folio.Url.Punycode

Punycode: host name labels with characters beyond ASCII, written in letters,
digits and hyphens.  The ASCII characters come first; the others follow in
ascending order as differences, in a number system whose thresholds adapt.
-/

namespace Folio.Url.Punycode

/-- The digit for a value below 36. -/
def digit (n : Nat) : Char := Char.ofNat (if n < 26 then 97 + n else 22 + n)

/-- The value of a digit. -/
def value? (c : Char) : Option Nat :=
  let n := c.toNat
  if 97 ≤ n ∧ n ≤ 122 then some (n - 97)
  else if 65 ≤ n ∧ n ≤ 90 then some (n - 65)
  else if 48 ≤ n ∧ n ≤ 57 then some (n - 22)
  else none

/-- Divide until at most 455, counting the divisions by 36. -/
def settle (delta k : Nat) : Nat × Nat :=
  if 455 < delta then settle (delta / 35) (k + 36) else (delta, k)
termination_by delta
decreasing_by exact Nat.div_lt_self (by omega) (by omega)

/-- The bias after a difference has been handled. -/
def adapt (delta points : Nat) (first : Bool) : Nat :=
  let delta := if first then delta / 700 else delta / 2
  let (delta, k) := settle (delta + delta / points) 0
  k + 36 * delta / (delta + 38)

/-- The threshold of the digit at a position. -/
def threshold (k bias : Nat) : Nat :=
  if k ≤ bias then 1 else if bias + 26 ≤ k then 26 else k - bias

/-- The digits of a difference. -/
def encodeDelta (bias k q : Nat) : List Char :=
  let t := threshold k bias
  if q < t then [digit q]
  else digit (t + (q - t) % (36 - t)) :: encodeDelta bias (k + 36) ((q - t) / (36 - t))
termination_by q
decreasing_by
  have h₁ : 1 ≤ t := by
    simp only [t, threshold]
    split
    · omega
    · split <;> omega
  exact Nat.lt_of_le_of_lt (Nat.div_le_self _ _) (by omega)

/-- The state of an encoding. -/
structure Encoder where
  delta : Nat
  bias : Nat
  handled : Nat
  out : List Char

/-- Handle one character of a text, when those below `n` are handled and `n`
is next. -/
def encodeChar (basic n : Nat) (e : Encoder) (c : Nat) : Encoder :=
  if c < n then { e with delta := e.delta + 1 }
  else if c = n then
    { delta := 0
      bias := adapt e.delta (e.handled + 1) (e.handled == basic)
      handled := e.handled + 1
      out := e.out ++ encodeDelta e.bias 36 e.delta }
  else e

/-- Handle all occurrences of each of the characters, which ascend. -/
def encodeAll (points : List Nat) (basic : Nat) (n : Nat) (e : Encoder) :
    List Nat → Encoder
  | [] => e
  | m :: rest =>
    let e := { e with delta := e.delta + (m - n) * (e.handled + 1) }
    let e := points.foldl (encodeChar basic m) e
    encodeAll points basic (m + 1) { e with delta := e.delta + 1 } rest

/-- A label in letters, digits and hyphens. -/
def encode (label : List Char) : List Char :=
  let points := label.map Char.toNat
  let basic := label.filter fun c => c.toNat < 128
  let others := ((points.filter (128 ≤ ·)).mergeSort (· ≤ ·)).eraseDups
  let start := if basic.isEmpty then [] else basic ++ ['-']
  (encodeAll points basic.length 128 ⟨0, 72, basic.length, start⟩ others).out

/-- Read the digits of a difference: the difference and the rest. -/
def decodeDelta? (bias k weight sum : Nat) : List Char → Option (Nat × List Char)
  | [] => none
  | c :: rest =>
    match value? c with
    | none => none
    | some d =>
      let sum := sum + d * weight
      if 2 ^ 32 ≤ sum then none
      else
        let t := threshold k bias
        if d < t then some (sum, rest) else decodeDelta? bias (k + 36) (weight * (36 - t)) sum rest

/-- Insert the characters that the digits give; `fuel` bounds their number. -/
def decodeAll? (out : List Nat) (n i bias : Nat) (digits : List Char) : Nat → Option (List Nat)
  | 0 => none
  | fuel + 1 =>
    if digits.isEmpty then some out
    else
      match decodeDelta? bias 36 1 0 digits with
      | none => none
      | some (delta, rest) =>
        let length := out.length + 1
        let place := i + delta
        let n := n + place / length
        if 0x10FFFF < n ∨ (0xD800 ≤ n ∧ n ≤ 0xDFFF) then none
        else
          let at' := place % length
          decodeAll? (out.take at' ++ n :: out.drop at') n (at' + 1)
            (adapt delta length (i == 0)) rest fuel

/-- The label that letters, digits and hyphens stand for. -/
def decode? (text : List Char) : Option (List Char) :=
  let tail := (text.reverse.takeWhile (· != '-')).reverse
  let (basic, digits) :=
    if tail.length = text.length then ([], text)
    else (text.take (text.length - tail.length - 1), tail)
  (decodeAll? (basic.map Char.toNat) 128 0 72 digits (digits.length + 1)).map (·.map Char.ofNat)

end Folio.Url.Punycode
