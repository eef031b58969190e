import Folio.Json.Reader
import Folio.Text.Search
import Folio.Toml.Value

/-!
# Folio.Toml.Scalar

Values that are written without quotation marks: truth values, integers, floats
and dates.
-/

namespace Folio.Toml

open Folio.Text

/-! ## Numbers -/

/-- The digits of a run in which single underscores may part them. -/
def digitRun? (isDigit : Char → Bool) (s : List Char) : Option (List Char) :=
  let parts := splitWhere (· == '_') s
  if parts.all fun part => !part.isEmpty && part.all isDigit then some parts.flatten else none

/-- The digits of a run without a superfluous zero before them. -/
def wholeDigits? (s : List Char) : Option (List Char) :=
  (digitRun? isAsciiDigit s).filter fun digits => digits.length = 1 || digits.head? != some '0'

/-- A sign, if there is one, and what follows: the sign is a minus sign. -/
def splitSign : List Char → Bool × List Char
  | '-' :: rest => (true, rest)
  | '+' :: rest => (false, rest)
  | s => (false, s)

/-- The value of digits in a base. -/
def digitsValue (base : Nat) (digits : List Char) : Nat :=
  digits.foldl (fun n c => n * base + (hexDigit? c).getD 0) 0

/-- The value of digits in a base that has a mark. -/
def basedValue? (base : Nat) (s : List Char) : Option Int :=
  let isDigit (c : Char) : Bool := (hexDigit? c).any (· < base)
  (digitRun? isDigit s).map fun digits => Int.ofNat (digitsValue base digits)

/-- The integers that are read. -/
def isReadable (n : Int) : Bool := -(Int.pow 2 127) ≤ n && n < Int.pow 2 128

/-- Read an integer. -/
def integer? (s : List Char) : Option Int :=
  match s with
  | '0' :: 'x' :: rest => basedValue? 16 rest
  | '0' :: 'o' :: rest => basedValue? 8 rest
  | '0' :: 'b' :: rest => basedValue? 2 rest
  | s =>
    let (negative, digits) := splitSign s
    (wholeDigits? digits).map fun digits =>
      if negative then -(decimalValue digits : Int) else decimalValue digits

/-- A letter that begins an exponent. -/
def isExponentMark (c : Char) : Bool := c == 'e' || c == 'E'

/-- The sign and the digits of an exponent, if there is one. -/
def exponent? (s : List Char) : Option (Option (Bool × List Char)) :=
  match s with
  | [] => some none
  | _ :: rest =>
    let (negative, digits) := splitSign rest
    (digitRun? isAsciiDigit digits).map fun digits => some (negative, digits)

/-- The digits of a fraction, if there is one. -/
def fraction? (s : List Char) : Option (List Char) :=
  match s with
  | [] => some []
  | _ :: rest => digitRun? isAsciiDigit rest

/-- A float that has digits. -/
def numeral? (s : List Char) : Option Json.Numeral := do
  let (negative, s) := splitSign s
  let mantissa := s.takeWhile fun c => !isExponentMark c
  let whole := mantissa.takeWhile (· != '.')
  let fraction ← fraction? (mantissa.drop whole.length)
  let exponent ← exponent? (s.drop mantissa.length)
  guard (!fraction.isEmpty || exponent.isSome)
  return ⟨negative, ← wholeDigits? whole, fraction, exponent⟩

/-- The text is a float.  One too large for a double is none. -/
def isFloat (s : List Char) : Bool :=
  let unsigned := (splitSign s).2
  unsigned == "inf".toList || unsigned == "nan".toList ||
    (numeral? s).any fun n => n.value?.isSome

/-! ## Dates -/

/-- The number that a given count of digits stands for, and what follows. -/
def digits? (count : Nat) (s : List Char) : Option (Nat × List Char) :=
  (natural? (s.take count)).bind fun n =>
    if (s.take count).length = count then some (n, s.drop count) else none

/-- The year has a day more. -/
def isLeapYear (year : Nat) : Bool := year % 4 == 0 && (year % 100 != 0 || year % 400 == 0)

/-- How many days a month has. -/
def daysIn (year month : Nat) : Nat :=
  if month = 2 then (if isLeapYear year then 29 else 28)
  else if month = 4 ∨ month = 6 ∨ month = 9 ∨ month = 11 then 30
  else 31

/-- What follows a date. -/
def afterDate? (s : List Char) : Option (List Char) := do
  let (year, s) ← digits? 4 s
  let (month, s) ← digits? 2 (← stripPrefix? ['-'] s)
  let (day, s) ← digits? 2 (← stripPrefix? ['-'] s)
  guard (1 ≤ month ∧ month ≤ 12 ∧ 1 ≤ day ∧ day ≤ daysIn year month)
  return s

/-- What follows the fraction of a second. -/
def afterFraction? : List Char → Option (List Char)
  | '.' :: rest =>
    if rest.head?.any isAsciiDigit then some (rest.dropWhile isAsciiDigit) else none
  | s => some s

/-- What follows the seconds of a time, which may be left out. -/
def afterSeconds? : List Char → Option (List Char)
  | ':' :: rest => do
    let (second, s) ← digits? 2 rest
    guard (second ≤ 60)
    afterFraction? s
  | s => some s

/-- What follows a time of day. -/
def afterTime? (s : List Char) : Option (List Char) := do
  let (hour, s) ← digits? 2 s
  let (minute, s) ← digits? 2 (← stripPrefix? [':'] s)
  guard (hour ≤ 23 ∧ minute ≤ 59)
  afterSeconds? s

/-- The text is empty or the distance from universal time. -/
def isOffset : List Char → Bool
  | [] => true
  | ['Z'] | ['z'] => true
  | sign :: rest =>
    (sign == '+' || sign == '-') && rest.length == 5 && (afterTime? rest).any (·.isEmpty)

/-- The text is a date, a time or both. -/
def isDateTime (s : List Char) : Bool :=
  match afterDate? s with
  | some [] => true
  | some (mark :: time) =>
    (mark == 'T' || mark == 't' || mark == ' ') && (afterTime? time).any isOffset
  | none => (afterTime? s).any (·.isEmpty)

/-! ## Scalars -/

/-- The value that a text without quotation marks stands for. -/
def scalar? (s : List Char) : Option Value :=
  if s = "true".toList then some (.boolean true)
  else if s = "false".toList then some (.boolean false)
  else
    match integer? s with
    | some n => if isReadable n then some (.integer n) else none
    | none =>
      if isFloat s then some (.float (String.ofList s))
      else if isDateTime s then some (.dateTime (String.ofList s))
      else none

end Folio.Toml
