/-!
# Folio.Digest.Words

Messages as words of 32 bits, for digests that work in blocks of sixteen
words: padding, the two byte orders, and rotation.
-/

namespace Folio.Digest

/-- Rotation to the left by `n` bits, for `n` from 1 to 31. -/
def rotateLeft (x : UInt32) (n : Nat) : UInt32 :=
  (x <<< UInt32.ofNat n) ||| (x >>> UInt32.ofNat (32 - n))

/-- Rotation to the right by `n` bits, for `n` from 1 to 31. -/
def rotateRight (x : UInt32) (n : Nat) : UInt32 := rotateLeft x (32 - n)

/-- The `n` bytes of a number, the least significant first. -/
def littleEndian : Nat → Nat → List UInt8
  | 0, _ => []
  | n + 1, value => UInt8.ofNat (value % 256) :: littleEndian n (value / 256)

/-- The `n` bytes of a number, the most significant first. -/
def bigEndian (n value : Nat) : List UInt8 := (littleEndian n value).reverse

/-- The number that bytes form, the least significant first. -/
def ofLittleEndian (bytes : List UInt8) : Nat :=
  bytes.foldr (fun b n => b.toNat + 256 * n) 0

/-- The number that bytes form, the most significant first. -/
def ofBigEndian (bytes : List UInt8) : Nat :=
  bytes.foldl (fun n b => 256 * n + b.toNat) 0

/-- The message followed by one set bit and as many zero bits as bring it, with
eight more bytes, to whole blocks. -/
def paddedWith (length : List UInt8) (message : List UInt8) : List UInt8 :=
  message ++ 0x80 :: (List.replicate ((119 - message.length % 64) % 64) 0 ++ length)

/-- The words of a byte sequence, four bytes each. -/
def words (read : List UInt8 → Nat) : List UInt8 → List UInt32
  | a :: b :: c :: d :: rest => UInt32.ofNat (read [a, b, c, d]) :: words read rest
  | _ => []

/-- The blocks of sixteen words. -/
def blocks (words : List UInt32) : List (Array UInt32) :=
  (List.range (words.length / 16)).map fun i => ((words.drop (16 * i)).take 16).toArray

end Folio.Digest
