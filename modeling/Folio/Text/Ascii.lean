/-!
# Folio.Text.Ascii

Letters, digits and letter case within ASCII.  Names of elements, headers,
charsets and methods are compared without regard to the case of ASCII
letters only; all other characters stand for themselves.
-/

namespace Folio.Text

/-- The character with an ASCII capital made small. -/
def lowerAscii (c : Char) : Char :=
  if 'A' ≤ c ∧ c ≤ 'Z' then Char.ofNat (c.toNat + 32) else c

/-- The character with a small ASCII letter made capital. -/
def upperAscii (c : Char) : Char :=
  if 'a' ≤ c ∧ c ≤ 'z' then Char.ofNat (c.toNat - 32) else c

/-- The string with ASCII capitals made small. -/
def toLowerAscii (s : String) : String := String.ofList (s.toList.map lowerAscii)

/-- The string with small ASCII letters made capital. -/
def toUpperAscii (s : String) : String := String.ofList (s.toList.map upperAscii)

/-- Equality up to the case of ASCII letters. -/
def eqIgnoreCase (a b : String) : Bool :=
  a.toList.map lowerAscii == b.toList.map lowerAscii

/-- An ASCII letter. -/
def isAsciiLetter (c : Char) : Bool := ('a' ≤ c && c ≤ 'z') || ('A' ≤ c && c ≤ 'Z')

/-- An ASCII digit. -/
def isAsciiDigit (c : Char) : Bool := '0' ≤ c && c ≤ '9'

/-- An ASCII letter or digit. -/
def isAsciiAlnum (c : Char) : Bool := isAsciiLetter c || isAsciiDigit c

/-- The value of a digit, zero for any other character. -/
def digitValue (c : Char) : Nat := c.toNat - 48

/-- The value of a text of digits, read with base ten from the left. -/
def decimalValue (digits : List Char) : Nat :=
  digits.foldl (fun n c => n * 10 + digitValue c) 0

/-- The value of a text that consists of one or more ASCII digits. -/
def natural? (s : List Char) : Option Nat :=
  if s ≠ [] ∧ s.all isAsciiDigit then some (decimalValue s) else none

/-- The value of digits that a plus or minus sign may precede. -/
def integer? : List Char → Option Int
  | '-' :: digits => (natural? digits).map fun n => -(n : Int)
  | '+' :: digits => (natural? digits).map Int.ofNat
  | digits => (natural? digits).map Int.ofNat

/-- The value of digits after an optional plus sign, at most `most`. -/
def naturalUpTo? (most : Nat) (s : List Char) : Option Nat :=
  let digits := match s with
    | '+' :: rest => rest
    | _ => s
  (natural? digits).filter (· ≤ most)

/-- The value of signed digits that lies from `least` to `most`. -/
def integerWithin? (least most : Int) (s : List Char) : Option Int :=
  (integer? s).filter fun n => least ≤ n && n ≤ most

/-- The value of a hexadecimal digit. -/
def hexDigit? (c : Char) : Option Nat :=
  if isAsciiDigit c then some (c.toNat - 48)
  else if 'a' ≤ c ∧ c ≤ 'f' then some (c.toNat - 87)
  else if 'A' ≤ c ∧ c ≤ 'F' then some (c.toNat - 55)
  else none

/-- The hexadecimal digit of a value below sixteen, with small letters. -/
def hexDigit (n : Nat) : Char :=
  if n < 10 then Char.ofNat (48 + n) else Char.ofNat (87 + n)

/-- The hexadecimal digit of a value below sixteen, with capital letters. -/
def hexDigitUpper (n : Nat) : Char :=
  if n < 10 then Char.ofNat (48 + n) else Char.ofNat (55 + n)

/-- Bytes as pairs of small hexadecimal digits. -/
def toHex (bytes : List UInt8) : String :=
  String.ofList (bytes.flatMap fun b => [hexDigit (b.toNat / 16), hexDigit (b.toNat % 16)])

/-- The bytes that pairs of hexadecimal digits stand for. -/
def ofHex? : List Char → Option (List UInt8)
  | [] => some []
  | a :: b :: rest => do
    let hi ← hexDigit? a
    let lo ← hexDigit? b
    let bytes ← ofHex? rest
    some (UInt8.ofNat (hi * 16 + lo) :: bytes)
  | _ => none

end Folio.Text
