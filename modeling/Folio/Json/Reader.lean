import Folio.Json.Value
import Folio.Text.Ascii

/-!
# Folio.Json.Reader

Reading JSON texts.  `tokens?` cuts a text into tokens, one character at a
time; `Form.ofTokens?` gives the tokens their structure with an explicit stack
of open arrays and objects, one token at a time; `Form.value?` gives a form
its value.  A form keeps what a value does not: repeated keys, the digits of
numbers, and strings whose escapes name no character.
-/

namespace Folio.Json

open Folio.Text

/-! ## Numerals -/

/-- The parts of a numeral as written. -/
structure Numeral where
  negative : Bool
  whole : List Char
  fraction : List Char
  /-- The exponent's sign and digits. -/
  exponent : Option (Bool × List Char)
deriving DecidableEq, Repr

namespace Numeral

/-- The exponent part of a numeral: nothing, or a mark, a sign and digits. -/
def readExponent? : List Char → Option (Option (Bool × List Char))
  | [] => some none
  | mark :: rest =>
    if mark = 'e' ∨ mark = 'E' then
      let (negative, digits) := match rest with
        | '-' :: digits => (true, digits)
        | '+' :: digits => (false, digits)
        | digits => (false, digits)
      if digits ≠ [] ∧ digits.all isAsciiDigit then some (some (negative, digits)) else none
    else none

/-- Read a numeral: an optional minus sign, digits without a superfluous
leading zero, an optional fraction and an optional exponent. -/
def read? (s : List Char) : Option Numeral := do
  let (negative, s) := match s with
    | '-' :: rest => (true, rest)
    | s => (false, s)
  let whole := s.takeWhile isAsciiDigit
  let s := s.dropWhile isAsciiDigit
  guard (whole ≠ [] ∧ (whole.head? = some '0' → whole.length = 1))
  match s with
  | '.' :: rest =>
    let fraction := rest.takeWhile isAsciiDigit
    guard (fraction ≠ [])
    return ⟨negative, whole, fraction, ← readExponent? (rest.dropWhile isAsciiDigit)⟩
  | s => return ⟨negative, whole, [], ← readExponent? s⟩

/-- The largest significand that is kept. -/
def significandLimit : Nat := Nat.pow 2 64 - 1

/-- Append digits to a significand as long as it stays within the limit; with
the digits that are left over. -/
def accumulate (n : Nat) : List Char → Nat × List Char
  | [] => (n, [])
  | c :: cs =>
    let next := n * 10 + digitValue c
    if next ≤ significandLimit then accumulate next cs else (n, c :: cs)

/-- The value of a numeral.  An integer within 64 bits is exact.  Any other
numeral is read as a double from the digits that fit 64 bits, those left over
counting only for the exponent; one too large for a double has no value. -/
def value? (n : Numeral) : Option Number :=
  let (significand, beyond) := accumulate 0 n.whole
  if beyond.isEmpty && n.fraction.isEmpty && n.exponent.isNone then
    if !n.negative then some (.int significand)
    else if 0 < significand ∧ significand ≤ Nat.pow 2 63 then some (.int (-(significand : Int)))
    else (Binary64.ofDecimal? true significand 0).map .float
  else
    let (significand, unused) := accumulate significand n.fraction
    let start : Int := (beyond.length : Int) - ((n.fraction.length - unused.length : Nat) : Int)
    match n.exponent with
    | none => (Binary64.ofDecimal? n.negative significand start).map .float
    | some (negative, digits) =>
      let e := decimalValue digits
      if e > Nat.pow 2 31 - 1 then
        if significand ≠ 0 ∧ !negative then none
        else some (.float (Binary64.zero n.negative))
      else
        let exponent := if negative then start - e else start + e
        (Binary64.ofDecimal? n.negative significand exponent).map .float

end Numeral

/-! ## Tokens -/

/-- A token of a JSON text. -/
inductive Token where
  | null
  | bool (value : Bool)
  | number (numeral : Numeral)
  | string (text : Option String)
  | openArray
  | closeArray
  | openObject
  | closeObject
  | colon
  | comma
deriving DecidableEq, Repr

/-- A piece of a string: a character as it stands, or an escaped 16-bit unit. -/
inductive Piece where
  | char (c : Char)
  | unit (value : Nat)

/-- The characters that pieces stand for: two units that form a surrogate pair
are one character, and a surrogate on its own is none. -/
def Piece.text? : List Piece → Option (List Char)
  | [] => some []
  | .char c :: rest => (text? rest).map (c :: ·)
  | .unit u :: rest =>
    if 0xD800 ≤ u ∧ u < 0xDC00 then
      match rest with
      | .unit v :: rest =>
        if 0xDC00 ≤ v ∧ v < 0xE000 then
          (text? rest).map (Char.ofNat (0x10000 + (u - 0xD800) * 1024 + (v - 0xDC00)) :: ·)
        else none
      | _ => none
    else if 0xDC00 ≤ u ∧ u < 0xE000 then none
    else (text? rest).map (Char.ofNat u :: ·)

/-- What stands at the place the scan has reached. -/
inductive Within where
  | blank
  | word (letters : List Char)
  | numeral (chars : List Char)
  | string (pieces : List Piece)
  | escape (pieces : List Piece)
  | unit (pieces : List Piece) (missing : Nat) (value : Nat)

/-- The token that a word is. -/
def wordToken? (letters : List Char) : Option Token :=
  if letters = ['t', 'r', 'u', 'e'] then some (.bool true)
  else if letters = ['f', 'a', 'l', 's', 'e'] then some (.bool false)
  else if letters = ['n', 'u', 'l', 'l'] then some .null
  else none

/-- The token that a mark is. -/
def markToken? : Char → Option Token
  | '[' => some .openArray
  | ']' => some .closeArray
  | '{' => some .openObject
  | '}' => some .closeObject
  | ':' => some .colon
  | ',' => some .comma
  | _ => none

/-- The character an escape of one letter stands for. -/
def escaped? : Char → Option Char
  | '"' => some '"'
  | '\\' => some '\\'
  | '/' => some '/'
  | 'b' => some '\x08'
  | 'f' => some '\x0c'
  | 'n' => some '\n'
  | 'r' => some '\r'
  | 't' => some '\t'
  | _ => none

/-- A character that may stand in a numeral. -/
def isNumeralChar (c : Char) : Bool :=
  isAsciiDigit c || c == '-' || c == '+' || c == '.' || c == 'e' || c == 'E'

/-- A small letter, as in the words for truth values and null. -/
def isWordChar (c : Char) : Bool := 'a' ≤ c && c ≤ 'z'

/-- A character outside of words, numerals and strings. -/
def scanBlank (done : List Token) (c : Char) : Option (List Token × Within) :=
  if c = ' ' ∨ c = '\n' ∨ c = '\r' ∨ c = '\t' then some (done, .blank)
  else if c = '"' then some (done, .string [])
  else if c = '-' ∨ isAsciiDigit c then some (done, .numeral [c])
  else if isWordChar c then some (done, .word [c])
  else (markToken? c).map fun t => (t :: done, .blank)

/-- One character of the scan. -/
def scanChar (done : List Token) (c : Char) : Within → Option (List Token × Within)
  | .blank => scanBlank done c
  | .word letters =>
    if isWordChar c then some (done, .word (c :: letters))
    else do scanBlank ((← wordToken? letters.reverse) :: done) c
  | .numeral chars =>
    if isNumeralChar c then some (done, .numeral (c :: chars))
    else do scanBlank (.number (← Numeral.read? chars.reverse) :: done) c
  | .string pieces =>
    if c = '"' then
      some (.string ((Piece.text? pieces.reverse).map String.ofList) :: done, .blank)
    else if c = '\\' then some (done, .escape pieces)
    else if c.toNat < 32 then none
    else some (done, .string (.char c :: pieces))
  | .escape pieces =>
    if c = 'u' then some (done, .unit pieces 3 0)
    else (escaped? c).map fun c => (done, .string (.char c :: pieces))
  | .unit pieces missing value => do
    let value := value * 16 + (← hexDigit? c)
    match missing with
    | 0 => some (done, .string (.unit value :: pieces))
    | missing + 1 => some (done, .unit pieces missing value)

/-- The tokens of a text from a place of the scan on. -/
def scan (done : List Token) (within : Within) : List Char → Option (List Token)
  | [] =>
    match within with
    | .blank => some done.reverse
    | .word letters => do some ((← wordToken? letters.reverse) :: done).reverse
    | .numeral chars => do some (.number (← Numeral.read? chars.reverse) :: done).reverse
    | _ => none
  | c :: cs =>
    match scanChar done c within with
    | some (done, within) => scan done within cs
    | none => none

/-- The tokens of a JSON text. -/
def tokens? (s : List Char) : Option (List Token) := scan [] .blank s

/-! ## Forms -/

/-- A JSON text as written. -/
inductive Form where
  | null
  | bool (value : Bool)
  | number (numeral : Numeral)
  | string (text : Option String)
  | array (items : List Form)
  | object (members : List (Option String × Form))
deriving Repr

namespace Form

/-- An array or object that is still open, with what it holds so far, the
latest first. -/
inductive Open where
  | array (items : List Form)
  | object (members : List (Option String × Form))
  | member (members : List (Option String × Form)) (key : Option String)

/-- What may come next. -/
inductive Next where
  | value
  | firstItem
  | firstKey
  | key
  | colon (key : Option String)
  | separator
  | nothing (whole : Form)

/-- Put a finished form where the innermost open one awaits it. -/
def settle (form : Form) : List Open → List Open × Next
  | [] => ([], .nothing form)
  | .array items :: rest => (.array (form :: items) :: rest, .separator)
  | .member members key :: rest => (.object ((key, form) :: members) :: rest, .separator)
  | .object members :: rest => (.object ((none, form) :: members) :: rest, .separator)

/-- A token where a value must stand. -/
def beginValue (stack : List Open) : Token → Option (List Open × Next)
  | .null => some (settle .null stack)
  | .bool b => some (settle (.bool b) stack)
  | .number n => some (settle (.number n) stack)
  | .string s => some (settle (.string s) stack)
  | .openArray => some (.array [] :: stack, .firstItem)
  | .openObject => some (.object [] :: stack, .firstKey)
  | _ => none

/-- Close the innermost array or object. -/
def close (token : Token) : List Open → Option (List Open × Next)
  | .array items :: rest =>
    if token = .closeArray then some (settle (.array items.reverse) rest) else none
  | .object members :: rest =>
    if token = .closeObject then some (settle (.object members.reverse) rest) else none
  | _ => none

/-- One token. -/
def step (stack : List Open) (next : Next) (token : Token) : Option (List Open × Next) :=
  match next with
  | .value => beginValue stack token
  | .firstItem => if token = .closeArray then close token stack else beginValue stack token
  | .firstKey =>
    match token with
    | .string key => some (stack, .colon key)
    | token => close token stack
  | .key =>
    match token with
    | .string key => some (stack, .colon key)
    | _ => none
  | .colon key =>
    match token, stack with
    | .colon, .object members :: rest => some (.member members key :: rest, .value)
    | _, _ => none
  | .separator =>
    match token, stack with
    | .comma, .array _ :: _ => some (stack, .value)
    | .comma, .object _ :: _ => some (stack, .key)
    | token, stack => close token stack
  | .nothing _ => none

/-- The form of the tokens, from a given stage on. -/
def run (stack : List Open) (next : Next) : List Token → Option Form
  | [] =>
    match next with
    | .nothing form => some form
    | _ => none
  | token :: rest =>
    match step stack next token with
    | some (stack, next) => run stack next rest
    | none => none

/-- The form of a sequence of tokens. -/
def ofTokens? (tokens : List Token) : Option Form := run [] .value tokens

/-- The form of a JSON text. -/
def read? (s : String) : Option Form := (tokens? s.toList).bind ofTokens?

mutual

/-- The value of a form in which arrays and objects are nested at most `depth`
deep.  Numbers too large and strings that are no text have none. -/
def value? (depth : Nat) : Form → Option Json
  | null => some .null
  | bool b => some (.bool b)
  | number n => n.value?.map .number
  | string s => s.map .string
  | array items =>
    if depth = 0 then none else (values? (depth - 1) items).map .array
  | object members =>
    if depth = 0 then none else (memberValues? (depth - 1) members).map .ofMembers

/-- The values of the items of an array. -/
def values? (depth : Nat) : List Form → Option (List Json)
  | [] => some []
  | form :: rest => do
    let v ← value? depth form
    let vs ← values? depth rest
    some (v :: vs)

/-- The values of the members of an object, as written. -/
def memberValues? (depth : Nat) : List (Option String × Form) → Option (List (String × Json))
  | [] => some []
  | (key, form) :: rest => do
    let k ← key
    let v ← value? depth form
    let members ← memberValues? depth rest
    some ((k, v) :: members)

end

end Form

/-- The deepest nesting of arrays and objects that is read. -/
def depthLimit : Nat := 127

/-- The value of a JSON text. -/
def parse? (s : String) : Option Json := (Form.read? s).bind (Form.value? depthLimit)

end Folio.Json
