/-!
# Folio.Text.Utf8

UTF-8.  `encode` gives the bytes of a text.  Reading is a scan, one byte at a
time, whose state holds the lead byte's promise: how many bytes are missing
and between which bounds the next one must lie.  A byte that breaks the
promise ends the malformed sequence before it and is then read afresh.
-/

namespace Folio.Text.Utf8

/-- The bytes of a text. -/
def encode (s : List Char) : List UInt8 := s.flatMap String.utf8EncodeChar

/-- The bytes of a string. -/
def bytes (s : String) : List UInt8 := encode s.toList

/-- The place of the scan within a character. -/
structure State where
  /-- How many bytes the character still needs. -/
  missing : Nat
  /-- The bits read so far. -/
  bits : Nat
  /-- The least value of the next byte. -/
  low : Nat
  /-- The greatest value of the next byte. -/
  high : Nat
deriving DecidableEq, Repr

/-- Between two characters. -/
def start : State := ⟨0, 0, 0x80, 0xBF⟩

/-- Read the first byte of a character.  `none` in the output stands for a
malformed sequence. -/
def lead (b : UInt8) : State × List (Option Char) :=
  let n := b.toNat
  if n < 0x80 then (start, [some (Char.ofNat n)])
  else if 0xC2 ≤ n ∧ n ≤ 0xDF then (⟨1, n - 0xC0, 0x80, 0xBF⟩, [])
  else if 0xE0 ≤ n ∧ n ≤ 0xEF then
    (⟨2, n - 0xE0, if n = 0xE0 then 0xA0 else 0x80, if n = 0xED then 0x9F else 0xBF⟩, [])
  else if 0xF0 ≤ n ∧ n ≤ 0xF4 then
    (⟨3, n - 0xF0, if n = 0xF0 then 0x90 else 0x80, if n = 0xF4 then 0x8F else 0xBF⟩, [])
  else (start, [none])

/-- Read one byte. -/
def step (s : State) (b : UInt8) : State × List (Option Char) :=
  match s.missing with
  | 0 => lead b
  | missing + 1 =>
    let n := b.toNat
    if s.low ≤ n ∧ n ≤ s.high then
      let bits := s.bits * 64 + (n - 0x80)
      if missing = 0 then (start, [some (Char.ofNat bits)])
      else (⟨missing, bits, 0x80, 0xBF⟩, [])
    else
      let (next, out) := lead b
      (next, none :: out)

/-- What is left at the end: a malformed sequence when a character is cut off. -/
def finish (s : State) : List (Option Char) :=
  if s.missing = 0 then [] else [none]

/-- The characters of a byte sequence from a place of the scan on, with `none`
for each malformed sequence. -/
def scan (s : State) : List UInt8 → List (Option Char)
  | [] => finish s
  | b :: rest =>
    let (next, out) := step s b
    out ++ scan next rest

/-- The text of a byte sequence, with U+FFFD for each malformed sequence. -/
def decodeLossy (bytes : List UInt8) : List Char :=
  (scan start bytes).map fun c => c.getD '\uFFFD'

end Folio.Text.Utf8
