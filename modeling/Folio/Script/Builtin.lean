import Folio.Script.Datum
import Folio.Script.Native
import Folio.Script.Token
import Folio.Text.Search
import Folio.Unicode.LetterCase

/-!
# Folio.Script.Builtin

The operators and functions that scripts find ready.  A function is applied to
its arguments, of which the first is the value it is a method of; some change
that value in place, and then it is part of the outcome.  Integers have 64
bits, and a result beyond them is a failure.
-/

namespace Folio.Script

open Folio.Text

/-- What goes wrong in a script. -/
inductive Trouble where
  /-- A failure that the script can catch, with the value it catches. -/
  | raised (value : Datum)
  /-- A limit was exceeded, or a script within the script is malformed. -/
  | fatal

/-- What a function gives: its value, and the new value of its first argument
if that was changed. -/
structure Outcome where
  value : Datum
  receiver : Option Datum

/-- A result. -/
abbrev Builtin.Result := Except Trouble Outcome

/-- What a script catches of a failure that no script raised. -/
def Trouble.ofMessage (message : String) : Trouble :=
  raised (.object [("message", .text message)])

namespace Builtin

/-- A failure with a message. -/
def failed {α : Type} (message : String) : Except Trouble α := .error (.ofMessage message)

/-- A value. -/
def gives (value : Datum) : Result := .ok ⟨value, none⟩

/-- The first argument changed. -/
def changes (receiver : Datum) : Result := .ok ⟨.unit, some receiver⟩

/-- The first argument changed, and a value. -/
def givesAndChanges (value receiver : Datum) : Result := .ok ⟨value, some receiver⟩

/-! ## Operators -/

/-- An integer that has 64 bits. -/
def bounded (n : Int) : Result :=
  if Token.minInt ≤ n ∧ n ≤ Token.maxInt then gives (.int n) else failed "arithmetic overflow"

/-- The integer that the lowest 64 bits stand for. -/
def wrapped (n : Int) : Int := Int.bmod n (Nat.pow 2 64)

/-- A power, if it has 64 bits; the exponent is not looked at where the base
alone decides. -/
def power (base exponent : Int) : Result :=
  if exponent < 0 then failed "negative exponent"
  else if base = 0 ∨ base = 1 then gives (.int (if exponent = 0 then 1 else base))
  else if base = -1 then gives (.int (if exponent % 2 = 0 then 1 else -1))
  else if exponent > 63 then failed "arithmetic overflow"
  else bounded (Int.pow base exponent.toNat)

/-- An integer as a pattern of 64 bits. -/
def bits (n : Int) : Nat := (n % Int.pow 2 64).toNat

/-- An operator on integers. -/
def onInts? (operator : String) (a b : Int) : Option Result :=
  match operator with
  | "+" => some (bounded (a + b))
  | "-" => some (bounded (a - b))
  | "*" => some (bounded (a * b))
  | "/" => some (if b = 0 then failed "division by zero" else bounded (a.tdiv b))
  | "%" => some (if b = 0 then failed "division by zero" else bounded (a.tmod b))
  | "**" => some (power a b)
  | "<<" =>
    some (if b < 0 then gives (.int (a >>> (-b).toNat))
      else gives (.int (if b < 64 then wrapped (a * Int.pow 2 b.toNat) else 0)))
  | ">>" =>
    some (if b < 0 then gives (.int (if -b < 64 then wrapped (a * Int.pow 2 (-b).toNat) else 0))
      else gives (.int (a >>> (min b 63).toNat)))
  | "&" => some (gives (.int (wrapped (bits a &&& bits b : Nat))))
  | "|" => some (gives (.int (wrapped (bits a ||| bits b : Nat))))
  | "^" => some (gives (.int (wrapped (bits a ^^^ bits b : Nat))))
  | _ => none

/-- An operator on truth values. -/
def onBools? (operator : String) (a b : Bool) : Option Result :=
  match operator with
  | "&" => some (gives (.bool (a && b)))
  | "|" => some (gives (.bool (a || b)))
  | "^" => some (gives (.bool (a != b)))
  | _ => none

/-- The first text comes before the second. -/
def precedes (a b : List Char) : Bool :=
  match a, b with
  | _, [] => false
  | [], _ :: _ => true
  | x :: xs, y :: ys => if x = y then precedes xs ys else x.toNat < y.toNat

/-- The order of two values of one kind, where the kind has an order. -/
def compared? : Datum → Datum → Option Ordering
  | .int a, .int b => some (compare a b)
  | .bool a, .bool b => some (compare a.toNat b.toNat)
  | .char a, .char b => some (compare a.toNat b.toNat)
  | .text a, .text b => some (ordered a.toList b.toList)
  | .char a, .text b => some (ordered [a] b.toList)
  | .text a, .char b => some (ordered a.toList [b])
  | _, _ => none
where
  /-- The order of two texts. -/
  ordered (a b : List Char) : Ordering :=
    if a = b then .eq else if precedes a b then .lt else .gt

/-- Two values of one kind that has no order. -/
def isUnordered : Datum → Datum → Bool
  | .array _, .array _ | .object _, .object _ | .range _ _ _, .range _ _ _
  | .closure _ _ _, .closure _ _ _ | .closure _ _ _, .function _ | .function _, .closure _ _ _
  | .function _, .function _ => true
  | _, _ => false

/-- A comparison of two values; values of different kinds are not equal, and
neither precedes the other. -/
def comparison? (operator : String) (a b : Datum) : Option Bool :=
  let ordered := fun (p : Ordering → Bool) =>
    if isUnordered a b then none else some ((compared? a b).any p)
  match operator with
  | "==" => some (a.same b)
  | "!=" => some (!a.same b)
  | "<" => ordered fun o => o == .lt
  | "<=" => ordered fun o => o != .gt
  | ">" => ordered fun o => o == .gt
  | ">=" => ordered fun o => o != .lt
  | _ => none

/-- The sum of two values that are not numbers. -/
def sum? : Datum → Datum → Option Datum
  | .array a, .array b => some (.array (a ++ b))
  | .object a, .object b =>
    some (.object (b.foldl (fun members (key, d) => Datum.setMember key d members) a))
  | .text a, b => some (.text (a ++ b.shown))
  | a, .text b => some (.text (a.shown ++ b))
  | .char a, .char b => some (.text (String.ofList [a, b]))
  | _, _ => none

/-- The text or character as a text. -/
def pattern? : Datum → Option (List Char)
  | .text s => some s.toList
  | .char c => some [c]
  | _ => none

/-- An operator between two values. -/
def operator? (operator : String) (a b : Datum) : Option Result :=
  match comparison? operator a b with
  | some answer => some (gives (.bool answer))
  | none =>
    match operator, a, b with
    | ".." , .int low, .int high => some (gives (.range low high false))
    | "..=", .int low, .int high => some (gives (.range low high true))
    | _, .int a, .int b => onInts? operator a b
    | _, .bool a, .bool b => onBools? operator a b
    | "+", a, b => (sum? a b).map gives
    | "-", .text a, b =>
      (pattern? b).map fun b => gives (.text (String.ofList (replaceAll b [] a.toList)))
    | _, _, _ => none

/-! ## Functions on texts -/

/-- The place in a text of `length` characters that a position names: negative
ones count from the end, and none is before the beginning. -/
def clampedStart (length : Nat) (position : Int) : Nat :=
  if position < 0 then length - (-position).toNat else position.toNat

/-- A part of a text. -/
def part (s : List Char) (start : Int) (count : Int) : List Char :=
  (s.drop (clampedStart s.length start)).take count.toNat

/-- The end of a range. -/
def rangeEnd (high : Int) (inclusive : Bool) : Int := if inclusive then high + 1 else high

/-- How many characters come before the first occurrence of a pattern; an empty
text has none. -/
def indexOf (pattern s : List Char) (start : Nat) : Int :=
  if s.isEmpty then -1
  else
    match cut? pattern (s.drop start) with
    | some (before, _) => start + before.length
    | none => -1

/-- A text filled up with copies of a pattern to a number of characters. -/
def padded (s pattern : List Char) (length : Nat) : List Char :=
  let missing := length - s.length
  if pattern.isEmpty then s
  else s ++ ((List.replicate (missing / pattern.length + 1) pattern).flatten.take missing)

/-- The pieces of a text between the occurrences of a pattern. -/
def pieces (pattern s : List Char) : List (List Char) :=
  match pattern with
  | [] => [[]] ++ s.map (fun c => [c]) ++ [[]]
  | p :: ps => splitOn p ps s

/-- The pieces of a text, of which the last, when there are more than `count`,
takes in all further ones. -/
def piecesUpTo (count : Int) (pattern s : List Char) : List (List Char) :=
  if count < 1 then [s]
  else
    let all := pieces pattern s
    let kept := count.toNat - 1
    if all.length ≤ kept then all else all.take kept ++ [pattern.intercalate (all.drop kept)]

/-- Pieces of a text as an array. -/
def textArray (items : List (List Char)) : Datum :=
  .array (items.map fun s => .text (String.ofList s))

/-- A text. -/
def textOf (s : List Char) : Datum := .text (String.ofList s)

/-- The greatest length that a text is filled up to. -/
def padLimit : Int := Int.pow 2 24

/-- A function on a text, with the arguments after the text. -/
def onText? (name : String) (text : String) (args : List Datum) : Option Result :=
  let s := text.toList
  match name, args with
  | "len", [] => some (gives (.int s.length))
  | "bytes", [] => some (gives (.int text.utf8ByteSize))
  | "is_empty", [] => some (gives (.bool s.isEmpty))
  | "to_upper", [] => some (gives (.text (Unicode.toUpper text)))
  | "to_lower", [] => some (gives (.text (Unicode.toLower text)))
  | "make_upper", [] => some (changes (.text (Unicode.toUpper text)))
  | "make_lower", [] => some (changes (.text (Unicode.toLower text)))
  | "trim", [] => some (changes (textOf (trim s)))
  | "clear", [] => some (changes (.text ""))
  | "chars", [] => some (gives (.array (s.map .char)))
  | "to_chars", [] => some (gives (.array (s.map .char)))
  | "pop", [] =>
    some (match s.getLast? with
      | some c => givesAndChanges (.char c) (textOf s.dropLast)
      | none => gives .unit)
  | "truncate", [.int n] => some (changes (textOf (s.take n.toNat)))
  | "sub_string", [.int start] => some (gives (textOf (part s start s.length)))
  | "sub_string", [.int start, .int count] => some (gives (textOf (part s start count)))
  | "sub_string", [.range low high inclusive] =>
    some (gives (textOf (part s (max low 0) (rangeEnd high inclusive - max low 0))))
  | "crop", [.int start] => some (changes (textOf (part s start s.length)))
  | "crop", [.int start, .int count] => some (changes (textOf (part s start count)))
  | "starts_with", [.text p] => some (gives (.bool (startsWith p.toList s)))
  | "ends_with", [.text p] => some (gives (.bool (endsWith p.toList s)))
  | "contains", [p] => (pattern? p).map fun p => gives (.bool (contains p s))
  | "index_of", [p] => (pattern? p).map fun p => gives (.int (indexOf p s 0))
  | "index_of", [p, .int start] =>
    (pattern? p).map fun p => gives (.int (indexOf p s (clampedStart s.length start)))
  | "replace", [p, sub] => do
    let p ← pattern? p
    let sub ← pattern? sub
    return changes (if s.isEmpty then .text text else textOf (replaceAll p sub s))
  | "remove", [p] => (pattern? p).map fun p => changes (textOf (replaceAll p [] s))
  | "append", [d] => some (changes (.text (text ++ d.shown)))
  | "push", [d] => some (changes (.text (text ++ d.shown)))
  | "split", [] => some (gives (textArray ((splitWhere isBlank s).filter (!·.isEmpty))))
  | "split", [.int n] =>
    let n := min (clampedStart s.length n) s.length
    some (gives (textArray [s.take n, s.drop n]))
  | "split", [p] => (pattern? p).map fun p => gives (textArray (pieces p s))
  | "split", [p, .int count] =>
    (pattern? p).map fun p => gives (textArray (piecesUpTo count p s))
  | "split_rev", [p] => (pattern? p).map fun p => gives (textArray (pieces p s).reverse)
  | "pad", [.int n, p] =>
    (pattern? p).map fun p =>
      if n > padLimit then .error .fatal else changes (textOf (padded s p n.toNat))
  | "get", [.int n] =>
    some (gives (((Datum.place? s.length n).bind (s[·]?)).map Datum.char |>.getD .unit))
  | "parse_int", [] => some (number s)
  | "to_int", [] => some (number s)
  | _, _ => none
where
  /-- The integer that a text writes. -/
  number (s : List Char) : Result :=
    match integerWithin? Token.minInt Token.maxInt (trim s) with
    | some n => gives (.int n)
    | none => failed "error parsing integer number"

/-- The integer that a text writes with a base. -/
def basedInteger (s : List Char) (base : Nat) : Result :=
  let (negative, digits) := match trim s with
    | '-' :: rest => (true, rest)
    | '+' :: rest => (false, rest)
    | rest => (false, rest)
  let value? := fun (c : Char) =>
    let c := lowerAscii c
    let n := if isAsciiDigit c then c.toNat - 48 else if isAsciiLetter c then c.toNat - 87 else base
    if n < base then some n else none
  if digits.isEmpty || !digits.all fun c => (value? c).isSome then
    failed "error parsing integer number"
  else
    let n : Int := digits.foldl (fun n c => n * base + (value? c).getD 0) (0 : Nat)
    bounded (if negative then -n else n)

/-! ## Functions on arrays and objects -/

/-- A function on an array, with the arguments after the array. -/
def onArray? (name : String) (items : List Datum) (args : List Datum) : Option Result :=
  match name, args with
  | "len", [] => some (gives (.int items.length))
  | "is_empty", [] => some (gives (.bool items.isEmpty))
  | "push", [d] => some (changes (.array (items ++ [d])))
  | "append", [.array more] => some (changes (.array (items ++ more)))
  | "pop", [] =>
    some (match items.getLast? with
      | some d => givesAndChanges d (.array items.dropLast)
      | none => gives .unit)
  | "shift", [] =>
    some (match items with
      | d :: rest => givesAndChanges d (.array rest)
      | [] => gives .unit)
  | "insert", [.int n, d] =>
    let n := min (clampedStart items.length n) items.length
    some (changes (.array (items.take n ++ d :: items.drop n)))
  | "remove", [.int n] =>
    some (match Datum.place? items.length n with
      | some n => givesAndChanges (items.getD n .unit) (.array (items.eraseIdx n))
      | none => gives .unit)
  | "reverse", [] => some (changes (.array items.reverse))
  | "clear", [] => some (changes (.array []))
  | "truncate", [.int n] => some (changes (.array (items.take n.toNat)))
  | "contains", [d] => some (gives (.bool (items.any (·.same d))))
  | "index_of", [d] =>
    some (gives (.int (match items.findIdx? (·.same d) with
      | some n => n
      | none => -1)))
  | "extract", [.int start] =>
    some (gives (.array (items.drop (clampedStart items.length start))))
  | "extract", [.int start, .int count] =>
    some (gives (.array ((items.drop (clampedStart items.length start)).take count.toNat)))
  | "pad", [.int n, d] =>
    if n > padLimit then some (.error .fatal)
    else some (changes (.array (items ++ List.replicate (n.toNat - items.length) d)))
  | "get", [.int n] => some (gives (((Datum.place? items.length n).bind (items[·]?)).getD .unit))
  | _, _ => none

/-- A function on an object, with the arguments after the object. -/
def onObject? (name : String) (members : List (String × Datum)) (args : List Datum) :
    Option Result :=
  match name, args with
  | "len", [] => some (gives (.int members.length))
  | "is_empty", [] => some (gives (.bool members.isEmpty))
  | "keys", [] => some (gives (.array (members.map fun (key, _) => .text key)))
  | "values", [] => some (gives (.array (members.map (·.2))))
  | "contains", [.text key] => some (gives (.bool (Datum.member? key members).isSome))
  | "get", [.text key] => some (gives ((Datum.member? key members).getD .unit))
  | "set", [.text key, d] => some (changes (.object (Datum.setMember key d members)))
  | "remove", [.text key] =>
    some (givesAndChanges ((Datum.member? key members).getD .unit)
      (.object (members.filter (·.1 != key))))
  | "clear", [] => some (changes (.object []))
  | _, _ => none

/-! ## All functions -/

/-- A function on an integer. -/
def onInt? (name : String) (n : Int) (args : List Datum) : Option Result :=
  match name, args with
  | "-", [] => some (bounded (-n))
  | "+", [] => some (gives (.int n))
  | "abs", [] => some (bounded n.natAbs)
  | "sign", [] => some (gives (.int n.sign))
  | "is_zero", [] => some (gives (.bool (n == 0)))
  | "is_odd", [] => some (gives (.bool (n % 2 != 0)))
  | "is_even", [] => some (gives (.bool (n % 2 == 0)))
  | "to_int", [] => some (gives (.int n))
  | "min", [.int m] => some (gives (.int (min n m)))
  | "max", [.int m] => some (gives (.int (max n m)))
  | "range", [.int m] => some (gives (.range n m false))
  | _, _ => none

/-- The digests and ciphers. -/
def native? (name : String) (args : List Datum) : Option Result :=
  let answer := fun (r : Except Failure String) =>
    match r with
    | .ok s => gives (.text s)
    | .error e => .error (.raised (.text e.message))
  match name, args with
  | "md5", [.text s] => some (gives (.text (Native.md5 s)))
  | "base64_encode", [.text s] => some (gives (.text (Native.base64Encode s)))
  | "base64_decode", [.text s] => some (answer (Native.base64Decode s))
  | "aes_cbc_decrypt", [.text data, .text key, .text vector] =>
    some (answer (Native.aesCbcDecrypt data key vector))
  | _, _ => none

/-- A function that depends on the kind of its first argument. -/
def onKind? (name : String) (args : List Datum) : Option Result :=
  match args with
  | .text s :: rest => onText? name s rest
  | .array items :: rest => onArray? name items rest
  | .object members :: rest => onObject? name members rest
  | .int n :: rest => onInt? name n rest
  | [.bool b] => if name = "!" then some (gives (.bool (!b))) else none
  | [.char c] =>
    match name with
    | "to_upper" =>
      some (gives (.char ((Unicode.toUpper (String.ofList [c])).toList.headD c)))
    | "to_lower" =>
      some (gives (.char ((Unicode.toLower (String.ofList [c])).toList.headD c)))
    | "to_int" => some (gives (.int c.toNat))
    | _ => none
  | .range low high inclusive :: rest =>
    match name, rest with
    | "contains", [.int n] => some (gives (.bool (low ≤ n && n < rangeEnd high inclusive)))
    | "start", [] => some (gives (.int low))
    | "end", [] => some (gives (.int high))
    | _, _ => none
  | _ => none

/-- A function that any value can be given to. -/
def onAny? (name : String) (args : List Datum) : Option Result :=
  match name, args with
  | "to_string", [d] => some (gives (.text d.shown))
  | "to_debug", [d] => some (gives (.text d.inspected))
  | "type_of", [d] => some (gives (.text d.kindName))
  | "parse_int", [.text s, .int base] =>
    some <|
      if 2 ≤ base && base ≤ 36 then basedInteger s.toList base.toNat else failed "invalid radix"
  | _, _ => none

/-- Apply an operator or a function to arguments. -/
def apply (name : String) (args : List Datum) : Result :=
  let operator := match args with
    | [a, b] => operator? name a b
    | _ => none
  match operator <|> onAny? name args <|> native? name args <|> onKind? name args with
  | some result => result
  | none => failed ("function not found: " ++ name)

end Builtin

end Folio.Script
