import Folio.Url.Name
import Folio.Url.Percent

/-!
# Folio.Url.Host

Hosts: names, addresses of version 4 with their many spellings, and addresses
of version 6 in brackets.
-/

namespace Folio.Url

open Folio.Text

/-- Why a text is no URL. -/
inductive Failure where
  | emptyHost
  | invalidName
  | invalidPort
  | invalidIpv4
  | invalidIpv6
  | invalidHostCharacter
  | relativeWithoutBase
  | relativeToOpaque
deriving DecidableEq, Repr

/-- The wording of a failure. -/
def Failure.message : Failure → String
  | emptyHost => "empty host"
  | invalidName => "invalid international domain name"
  | invalidPort => "invalid port number"
  | invalidIpv4 => "invalid IPv4 address"
  | invalidIpv6 => "invalid IPv6 address"
  | invalidHostCharacter => "invalid domain character"
  | relativeWithoutBase => "relative URL without a base"
  | relativeToOpaque => "relative URL with a cannot-be-a-base base"

/-! ## Addresses of version 4 -/

/-- The number that a part of an address spells: decimal, octal after `0`, or
hexadecimal after `0x`.  The outer option is nothing when it spells none, the
inner when the number exceeds 32 bits. -/
def ipv4Number? (s : List Char) : Option (Option Nat) :=
  let bounded (n : Nat) : Option (Option Nat) := some (if n < Nat.pow 2 32 then some n else none)
  let hex (digits : List Char) : Option (Option Nat) :=
    if digits.all fun c => (hexDigit? c).isSome then bounded (hexValue digits) else none
  match s with
  | [] => none
  | '0' :: 'x' :: digits => hex digits
  | '0' :: 'X' :: digits => hex digits
  | '0' :: c :: rest =>
    let digits := c :: rest
    if digits.all fun c => '0' ≤ c && c ≤ '7' then
      bounded (digits.foldl (fun n c => n * 8 + digitValue c) 0)
    else none
  | digits => if digits.all isAsciiDigit then bounded (decimalValue digits) else none

/-- The parts of a name without the empty one that a final dot leaves. -/
def dottedParts (name : List Char) : List (List Char) :=
  let parts := splitWhere (· == '.') name
  if parts.getLast? = some [] then parts.dropLast else parts

/-- The last part of the name spells a number, so that the name has to be an
address. -/
def endsInNumber (name : List Char) : Bool :=
  match (dottedParts name).getLast? with
  | none => false
  | some last => (!last.isEmpty && last.all isAsciiDigit) || (ipv4Number? last).isSome

/-- All numbers, when every part spells one within bounds. -/
def ipv4Numbers? : List (List Char) → Option (List Nat)
  | [] => some []
  | part :: rest => do
    let n ← ipv4Number? part
    let n ← n
    let others ← ipv4Numbers? rest
    some (n :: others)

/-- The address that a name spells, as four numbers with dots. -/
def ipv4? (name : List Char) : Option (List Char) := do
  let parts := dottedParts name
  guard (parts.length ≤ 4)
  let numbers ← ipv4Numbers? parts
  let last ← numbers.getLast?
  let before := numbers.dropLast
  guard (last < Nat.pow 2 (8 * (4 - before.length)) ∧ before.all (· ≤ 255))
  let value := (before.zipIdx.foldl (fun sum (n, i) => sum + n * Nat.pow 2 (8 * (3 - i))) last)
  let bytes := [value >>> 24, (value >>> 16) % 256, (value >>> 8) % 256, value % 256]
  return ['.'].intercalate (bytes.map fun n => Nat.toDigits 10 n)

/-! ## Addresses of version 6 -/

/-- A decimal number from 0 to 255 without superfluous zeros. -/
def ipv4Byte? (s : List Char) : Option Nat := do
  let n ← natural? s
  if n ≤ 255 ∧ s.length = (Nat.toDigits 10 n).length then some n else none

/-- The two pieces that an address of version 4 at the end gives. -/
def embeddedPieces? (s : List Char) : Option (List Nat) := do
  match splitWhere (· == '.') s with
  | [a, b, c, d] =>
    return [(← ipv4Byte? a) * 256 + (← ipv4Byte? b), (← ipv4Byte? c) * 256 + (← ipv4Byte? d)]
  | _ => none

/-- A piece of one to four hexadecimal digits. -/
def ipv6Piece? (s : List Char) : Option Nat :=
  if s ≠ [] ∧ s.length ≤ 4 ∧ s.all (fun c => (hexDigit? c).isSome) then some (hexValue s) else none

/-- The pieces parted by colons; `last` allows an address of version 4 at the
end. -/
def ipv6Pieces? (last : Bool) : List (List Char) → Option (List Nat)
  | [] => some []
  | [s] =>
    match ipv6Piece? s with
    | some n => some [n]
    | none => if last then embeddedPieces? s else none
  | s :: rest => do
    let n ← ipv6Piece? s
    let others ← ipv6Pieces? last rest
    some (n :: others)

/-- The pieces of one side of a double colon. -/
def ipv6Side? (last : Bool) (s : List Char) : Option (List Nat) :=
  if s.isEmpty then some [] else ipv6Pieces? last (splitWhere (· == ':') s)

/-- The eight pieces of an address. -/
def ipv6? (s : List Char) : Option (List Nat) := do
  match cut? [':', ':'] s with
  | none =>
    let pieces ← ipv6Side? true s
    guard (pieces.length = 8)
    return pieces
  | some (left, right) =>
    let a ← ipv6Side? false left
    let b ← ipv6Side? true right
    guard (a.length + b.length ≤ 7)
    return a ++ List.replicate (8 - a.length - b.length) 0 ++ b

/-- The lengths of the runs of zeros that begin at each piece. -/
def zeroRuns : List Nat → List Nat
  | [] => []
  | n :: rest =>
    let runs := zeroRuns rest
    (if n = 0 then runs.headD 0 + 1 else 0) :: runs

/-- An address in brackets, its longest run of zeros left out. -/
def ipv6Text (pieces : List Nat) : List Char :=
  let write := fun ns : List Nat => [':'].intercalate (ns.map fun n => Nat.toDigits 16 n)
  let runs := zeroRuns pieces
  let longest := runs.foldl max 0
  if longest < 2 then '[' :: (write pieces ++ [']'])
  else
    let i := (runs.findIdx? (· == longest)).getD 0
    '[' :: (write (pieces.take i) ++ [':', ':'] ++ write (pieces.drop (i + longest)) ++ [']'])

/-! ## Hosts -/

/-- The inside of brackets. -/
def bracketed? (s : List Char) : Option (List Char) :=
  if endsWith [']'] s then some (s.drop 1).dropLast else none

/-- The host of a web address as it is written. -/
def host (s : List Char) : Except Failure (List Char) :=
  match s with
  | '[' :: _ =>
    match (bracketed? s).bind ipv6? with
    | some pieces => .ok (ipv6Text pieces)
    | none => .error .invalidIpv6
  | s =>
    match nameToAscii? (decodeBytes s) with
    | none => .error .invalidName
    | some name =>
      if name.isEmpty then .error .emptyHost
      else if endsInNumber name then
        match ipv4? name with
        | some address => .ok address
        | none => .error .invalidIpv4
      else .ok name

/-- The host of any other URL as it is written. -/
def opaqueHost (s : List Char) : Except Failure (List Char) :=
  match s with
  | '[' :: _ =>
    match (bracketed? s).bind ipv6? with
    | some pieces => .ok (ipv6Text pieces)
    | none => .error .invalidIpv6
  | s =>
    if s.any fun c => c.toNat == 0 || c == '\t' || c == '\n' || c == '\r' || c == ' ' || c == '#' ||
        c == '/' || c == ':' || c == '<' || c == '>' || c == '?' || c == '@' || c == '[' ||
        c == '\\' || c == ']' || c == '^' || c == '|' then
      .error .invalidHostCharacter
    else .ok (encodeText keptOpaque s)

end Folio.Url
