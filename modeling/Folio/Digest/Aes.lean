/-!
# Folio.Digest.Aes

Decryption with AES in cipher-block chaining mode, the padding taken off.
Bytes are elements of the field of 256 elements modulo `x⁸ + x⁴ + x³ + x + 1`;
the substitution box is inversion in that field followed by an affine map.
-/

namespace Folio.Digest.Aes

/-! ## The field -/

/-- Multiplication by `x`. -/
def double (a : UInt8) : UInt8 :=
  if a < 0x80 then a <<< 1 else (a <<< 1) ^^^ 0x1B

/-- The product of two field elements. -/
def times (a b : UInt8) : UInt8 :=
  ((List.range 8).foldl (fun (sum, power) i =>
    (if b.toNat.testBit i then sum ^^^ power else sum, double power)) ((0 : UInt8), a)).1

/-- The inverse of a field element, zero for zero: its power 254. -/
def inverse (a : UInt8) : UInt8 :=
  ((List.range 7).foldl (fun (product, square) _ =>
    let square := times square square
    (times product square, square)) ((1 : UInt8), a)).1

/-- Rotation of a byte to the left. -/
def rotateByte (a : UInt8) (n : UInt8) : UInt8 := (a <<< n) ||| (a >>> (8 - n))

/-- The substitution of a byte. -/
def substitute (a : UInt8) : UInt8 :=
  let b := inverse a
  b ^^^ rotateByte b 1 ^^^ rotateByte b 2 ^^^ rotateByte b 3 ^^^ rotateByte b 4 ^^^ 0x63

/-- The substitution box. -/
def box : Array UInt8 := (List.range 256).toArray.map fun n => substitute (UInt8.ofNat n)

/-- The inverse of the substitution box. -/
def inverseBox : Array UInt8 :=
  (List.range 256).foldl (fun table n => table.setIfInBounds (box.getD n 0).toNat (UInt8.ofNat n))
    (Array.replicate 256 0)

/-- The entry of a table for a byte. -/
def look (table : Array UInt8) (a : UInt8) : UInt8 := table.getD a.toNat 0

/-! ## Round keys -/

/-- A word of four bytes exchanged byte by byte with another by exclusive or. -/
def xorBytes (a b : List UInt8) : List UInt8 := a.zipWith (· ^^^ ·) b

/-- The next word of the key schedule, for keys of `n` words, where `words`
holds all words so far, the latest first. -/
def nextKeyWord (n : Nat) (words : List (List UInt8)) (constant : UInt8) : List UInt8 :=
  let i := words.length
  let last := words.headD []
  let changed :=
    if i % n = 0 then
      xorBytes ((last.drop 1 ++ last.take 1).map (look box)) [constant, 0, 0, 0]
    else if 6 < n ∧ i % n = 4 then last.map (look box)
    else last
  xorBytes ((words.drop (n - 1)).headD []) changed

/-- The key schedule of a key of `n` words: `4 * (n + 7)` words. -/
def keyWords (n : Nat) (key : List UInt8) : List (List UInt8) :=
  let initial := (List.range n).map fun i => (key.drop (4 * i)).take 4
  ((List.range (4 * (n + 7) - n)).foldl (fun (words, constant) _ =>
    let word := nextKeyWord n words constant
    (word :: words, if words.length % n = 0 then double constant else constant))
    (initial.reverse, (1 : UInt8))).1.reverse

/-- The round keys of sixteen bytes each, the last first. -/
def roundKeys (n : Nat) (key : List UInt8) : List (List UInt8) :=
  let words := keyWords n key
  ((List.range (n + 7)).map fun i => ((words.drop (4 * i)).take 4).flatten).reverse

/-! ## Blocks -/

/-- Undo the rotation of the rows of a block, which is stored by columns. -/
def unshiftRows (block : List UInt8) : List UInt8 :=
  let b := block.toArray
  (List.range 16).map fun i => b.getD ((i + 12 * (i % 4)) % 16) 0

/-- Undo the mixing of one column. -/
def unmixColumn : List UInt8 → List UInt8
  | [a, b, c, d] =>
    let row (p q r s : UInt8) := times 14 p ^^^ times 11 q ^^^ times 13 r ^^^ times 9 s
    [row a b c d, row b c d a, row c d a b, row d a b c]
  | column => column

/-- Undo the mixing of the columns of a block. -/
def unmixColumns (block : List UInt8) : List UInt8 :=
  (List.range 4).flatMap fun i => unmixColumn ((block.drop (4 * i)).take 4)

/-- Undo the rounds of a block, given the round keys that are left. -/
def undoRounds (block : List UInt8) : List (List UInt8) → List UInt8
  | [] => block
  | [key] => xorBytes ((unshiftRows block).map (look inverseBox)) key
  | key :: keys =>
    undoRounds (unmixColumns (xorBytes ((unshiftRows block).map (look inverseBox)) key)) keys

/-- The plain block of a block, given the round keys, the last first. -/
def decryptBlock (keys : List (List UInt8)) (block : List UInt8) : List UInt8 :=
  match keys with
  | [] => block
  | key :: keys => undoRounds (xorBytes block key) keys

/-! ## Chained blocks -/

/-- Why data cannot be decrypted. -/
inductive Failure where
  /-- The key has none of the three lengths. -/
  | keyLength (bytes : Nat)
  /-- The initialization vector is not one block. -/
  | vectorLength
  /-- The data is not whole blocks that end in a padding. -/
  | padding
deriving DecidableEq, Repr

/-- The wording of a failure. -/
def Failure.message : Failure → String
  | keyLength n => s!"unsupported AES key length {n}"
  | vectorLength => "Invalid Length"
  | padding => "Unpad Error"

/-- The plain text of chained blocks, each combined with the one before. -/
def decryptChain (keys : List (List UInt8)) (before : List UInt8) :
    List (List UInt8) → List UInt8
  | [] => []
  | block :: rest => xorBytes (decryptBlock keys block) before ++ decryptChain keys block rest

/-- Take off the padding: `n` bytes of value `n`, at least one and at most a
block. -/
def unpad? (plain : List UInt8) : Option (List UInt8) :=
  match plain.getLast? with
  | none => none
  | some last =>
    let n := last.toNat
    if 1 ≤ n ∧ n ≤ 16 ∧ (plain.drop (plain.length - n)).all (· == last) then
      some (plain.take (plain.length - n))
    else none

/-- Decrypt data with a key of 16, 24 or 32 bytes and a vector of 16. -/
def decryptCbc (data key vector : List UInt8) : Except Failure (List UInt8) :=
  if key.length ≠ 16 ∧ key.length ≠ 24 ∧ key.length ≠ 32 then .error (.keyLength key.length)
  else if vector.length ≠ 16 then .error .vectorLength
  else if data.length % 16 ≠ 0 then .error .padding
  else
    let keys := roundKeys (key.length / 4) key
    let blocks := (List.range (data.length / 16)).map fun i => (data.drop (16 * i)).take 16
    match unpad? (decryptChain keys vector blocks) with
    | some plain => .ok plain
    | none => .error .padding

end Folio.Digest.Aes
