import Folio.Json.Value
import Folio.Json.Shortest

/-!
# Folio.Json.Printer

The compact text of a JSON value: no blanks, members in key order, and in
strings only the quotation mark, the backslash and the control characters
below U+0020 escaped.
-/

namespace Folio.Json

/-- The text of a number. -/
def Number.text : Number → String
  | .int n => toString n
  | .float x => x.text

/-- Four hexadecimal digits. -/
def hex4 (n : Nat) : List Char :=
  let digits := Nat.toDigits 16 n
  List.replicate (4 - digits.length) '0' ++ digits

/-- The escaped form of a character within a string. -/
def escapeChar (c : Char) : List Char :=
  match c with
  | '"' => ['\\', '"']
  | '\\' => ['\\', '\\']
  | '\n' => ['\\', 'n']
  | '\r' => ['\\', 'r']
  | '\t' => ['\\', 't']
  | c =>
    if c.toNat = 8 then ['\\', 'b']
    else if c.toNat = 12 then ['\\', 'f']
    else if c.toNat < 32 then '\\' :: 'u' :: hex4 c.toNat
    else [c]

/-- A string in quotation marks. -/
def quote (s : String) : String :=
  String.ofList ('"' :: (s.toList.flatMap escapeChar ++ ['"']))

mutual

/-- The compact text of a value. -/
def text : Json → String
  | null => "null"
  | bool b => if b then "true" else "false"
  | number n => n.text
  | string s => quote s
  | array items => "[" ++ textItems items ++ "]"
  | object members => "\x7b" ++ textMembers members ++ "\x7d"

/-- The items of an array, parted by commas. -/
def textItems : List Json → String
  | [] => ""
  | [v] => text v
  | v :: w :: rest => text v ++ "," ++ textItems (w :: rest)

/-- The members of an object, parted by commas. -/
def textMembers : List (String × Json) → String
  | [] => ""
  | [(k, v)] => quote k ++ ":" ++ text v
  | (k, v) :: m :: rest => quote k ++ ":" ++ text v ++ "," ++ textMembers (m :: rest)

end

end Folio.Json
