import Folio.Digest.Words
import Folio.Text.Ascii
import Folio.Text.Utf8

/-!
# Folio.Digest.Md5

The MD5 digest.  Each block of sixteen words is worked into a state of four
words in sixty-four steps, sixteen for each of four mixing functions.
-/

namespace Folio.Digest.Md5

open Folio.Text

/-- The state of four words. -/
structure State where
  a : UInt32
  b : UInt32
  c : UInt32
  d : UInt32

/-- The state before the first block. -/
def initial : State := ⟨0x67452301, 0xefcdab89, 0x98badcfe, 0x10325476⟩

/-- The summand of each step: the integer part of `2 ^ 32` times the sine's
magnitude at the step's number, counted from one. -/
def sines : Array UInt32 :=
  #[0xd76aa478, 0xe8c7b756, 0x242070db, 0xc1bdceee, 0xf57c0faf, 0x4787c62a,
   0xa8304613, 0xfd469501, 0x698098d8, 0x8b44f7af, 0xffff5bb1, 0x895cd7be,
   0x6b901122, 0xfd987193, 0xa679438e, 0x49b40821, 0xf61e2562, 0xc040b340,
   0x265e5a51, 0xe9b6c7aa, 0xd62f105d, 0x02441453, 0xd8a1e681, 0xe7d3fbc8,
   0x21e1cde6, 0xc33707d6, 0xf4d50d87, 0x455a14ed, 0xa9e3e905, 0xfcefa3f8,
   0x676f02d9, 0x8d2a4c8a, 0xfffa3942, 0x8771f681, 0x6d9d6122, 0xfde5380c,
   0xa4beea44, 0x4bdecfa9, 0xf6bb4b60, 0xbebfbc70, 0x289b7ec6, 0xeaa127fa,
   0xd4ef3085, 0x04881d05, 0xd9d4d039, 0xe6db99e5, 0x1fa27cf8, 0xc4ac5665,
   0xf4292244, 0x432aff97, 0xab9423a7, 0xfc93a039, 0x655b59c3, 0x8f0ccc92,
   0xffeff47d, 0x85845dd1, 0x6fa87e4f, 0xfe2ce6e0, 0xa3014314, 0x4e0811a1,
   0xf7537e82, 0xbd3af235, 0x2ad7d2bb, 0xeb86d391]

/-- The rotations of each round's four steps. -/
def rotations : Array Nat := #[7, 12, 17, 22, 5, 9, 14, 20, 4, 11, 16, 23, 6, 10, 15, 21]

/-- The mixing function of a step. -/
def mix (i : Nat) (s : State) : UInt32 :=
  if i < 16 then (s.b &&& s.c) ||| (~~~s.b &&& s.d)
  else if i < 32 then (s.d &&& s.b) ||| (~~~s.d &&& s.c)
  else if i < 48 then s.b ^^^ s.c ^^^ s.d
  else s.c ^^^ (s.b ||| ~~~s.d)

/-- The word of the block that a step takes. -/
def wordIndex (i : Nat) : Nat :=
  if i < 16 then i
  else if i < 32 then (5 * i + 1) % 16
  else if i < 48 then (3 * i + 5) % 16
  else 7 * i % 16

/-- One step. -/
def step (block : Array UInt32) (s : State) (i : Nat) : State :=
  let sum := s.a + mix i s + sines.getD i 0 + block.getD (wordIndex i) 0
  ⟨s.d, s.b + rotateLeft sum (rotations.getD (i / 16 * 4 + i % 4) 1), s.b, s.c⟩

/-- Work one block into the state. -/
def compress (s : State) (block : Array UInt32) : State :=
  let t := (List.range 64).foldl (step block) s
  ⟨s.a + t.a, s.b + t.b, s.c + t.c, s.d + t.d⟩

/-- The digest of a message. -/
def digest (message : List UInt8) : List UInt8 :=
  let padded := paddedWith (littleEndian 8 (8 * message.length)) message
  let s := (blocks (words ofLittleEndian padded)).foldl compress initial
  [s.a, s.b, s.c, s.d].flatMap fun w => littleEndian 4 w.toNat

/-- The digest of a text's UTF-8 bytes, in hexadecimal. -/
def hex (text : String) : String := toHex (digest (Utf8.bytes text))

end Folio.Digest.Md5
