import Folio.Script.Syntax
import Folio.Text.Utf8
import Folio.Unicode.Category

/-!
# Folio.Script.Datum

The values that scripts compute with.  A closure keeps the scope it was written
in; variables are cells, so that a closure and the code around it see each
other's assignments.
-/

namespace Folio.Script

/-- A variable in scope: its name, and the cell that holds its value. -/
structure Slot where
  name : String
  constant : Bool
  cell : Nat

/-- A value. -/
inductive Datum where
  | unit
  | bool (b : Bool)
  | int (n : Int)
  | char (c : Char)
  | text (s : String)
  | array (items : List Datum)
  /-- Members ascending by key. -/
  | object (members : List (String × Datum))
  /-- The integers from `low` on, before `high` or up to it. -/
  | range (low high : Int) (inclusive : Bool)
  | closure (params : List String) (body : Expr) (scope : List Slot)
  /-- A function of the script by its name. -/
  | function (name : String)

namespace Datum

/-- The value of a constant. -/
def ofLiteral : Literal → Datum
  | .unit => unit
  | .bool b => bool b
  | .int n => int n
  | .char c => char c
  | .text s => text s

/-! ## Written forms -/

/-- The character is written as its number within quotation marks: a control,
a blank other than the space, an unassigned or private character, or one that
extends the character before it. -/
def isNumbered (c : Char) : Bool :=
  if c.toNat < 127 then c.toNat < 32
  else
    let category := Unicode.category c
    ["Cc", "Cf", "Cs", "Co", "Cn", "Zl", "Zp", "Zs", "Mn", "Me"].contains category

/-- The hexadecimal digits of a number, the last first. -/
def hexDigits : Nat → Nat → List Char
  | 0, _ => []
  | fuel + 1, n => Text.hexDigit (n % 16) :: (if n < 16 then [] else hexDigits fuel (n / 16))

/-- A character as it is written between the quotation marks `quote`. -/
def quotedChar (quote c : Char) : List Char :=
  if c = quote ∨ c = '\\' then ['\\', c]
  else if c = '\n' then ['\\', 'n']
  else if c = '\r' then ['\\', 'r']
  else if c = '\t' then ['\\', 't']
  else if c = '\x00' then ['\\', '0']
  else if isNumbered c then
    ['\\', 'u', '\x7b'] ++ (hexDigits 8 c.toNat).reverse ++ ['\x7d']
  else [c]

/-- A text between quotation marks. -/
def quoted (s : String) : String :=
  String.ofList ('"' :: s.toList.flatMap (quotedChar '"') ++ ['"'])

/-- The bounds of a range as they are written. -/
def rangeText (low high : Int) (inclusive : Bool) : String :=
  toString low ++ (if inclusive then "..=" else "..") ++ toString high

mutual

/-- A value as it is written within other values. -/
def inspected : Datum → String
  | unit => "()"
  | bool b => if b then "true" else "false"
  | int n => toString n
  | char c => String.ofList ('\'' :: quotedChar '\'' c ++ ['\''])
  | text s => quoted s
  | array items => "[" ++ ", ".intercalate (inspectedItems items) ++ "]"
  | object members => "#\x7b" ++ ", ".intercalate (inspectedMembers members) ++ "\x7d"
  | range low high inclusive => rangeText low high inclusive
  | closure _ _ _ => "Fn"
  | function name => "Fn(" ++ name ++ ")"

/-- The written forms of items. -/
def inspectedItems : List Datum → List String
  | [] => []
  | d :: rest => inspected d :: inspectedItems rest

/-- The written forms of members. -/
def inspectedMembers : List (String × Datum) → List String
  | [] => []
  | (key, d) :: rest => (quoted key ++ ": " ++ inspected d) :: inspectedMembers rest

end

/-- A value as it is shown: texts and characters without quotation marks, and
nothing for the unit. -/
def shown : Datum → String
  | unit => ""
  | char c => String.ofList [c]
  | text s => s
  | d => inspected d

/-! ## Comparison and size -/

mutual

/-- The values are equal; those of different kinds never are. -/
def same : Datum → Datum → Bool
  | unit, unit => true
  | bool a, bool b => a == b
  | int a, int b => a == b
  | char a, char b => a == b
  | text a, text b => a == b
  | char a, text b => b.toList == [a]
  | text a, char b => a.toList == [b]
  | array a, array b => sameItems a b
  | object a, object b => sameMembers a b
  | range a b i, range c d j => a == c && b == d && i == j
  | function a, function b => a == b
  | _, _ => false

/-- The items are equal one by one. -/
def sameItems : List Datum → List Datum → Bool
  | [], [] => true
  | a :: as, b :: bs => same a b && sameItems as bs
  | _, _ => false

/-- The members are equal one by one. -/
def sameMembers : List (String × Datum) → List (String × Datum) → Bool
  | [], [] => true
  | (k, a) :: as, (l, b) :: bs => k == l && same a b && sameMembers as bs
  | _, _ => false

end

mutual

/-- How many bytes the texts of a value have together. -/
def textSize : Datum → Nat
  | text s => s.utf8ByteSize
  | array items => itemsSize items
  | object members => membersSize members
  | _ => 0

/-- How many bytes the texts of items have together. -/
def itemsSize : List Datum → Nat
  | [] => 0
  | d :: rest => textSize d + itemsSize rest

/-- How many bytes the texts of members have together. -/
def membersSize : List (String × Datum) → Nat
  | [] => 0
  | (_, d) :: rest => textSize d + membersSize rest

end

/-! ## Members -/

/-- The member with a key. -/
def member? (key : String) (members : List (String × Datum)) : Option Datum := members.lookup key

/-- The members with another value for a key. -/
def setMember (key : String) (value : Datum) :
    List (String × Datum) → List (String × Datum)
  | [] => [(key, value)]
  | (k, d) :: rest =>
    if key < k then (key, value) :: (k, d) :: rest
    else if key = k then (key, value) :: rest
    else (k, d) :: setMember key value rest

/-- The place that a position names in a list: negative ones count from the
end. -/
def place? (length : Nat) (position : Int) : Option Nat :=
  if 0 ≤ position then (if position < length then some position.toNat else none)
  else if -position ≤ length then some (length - (-position).toNat)
  else none

/-- The name of a kind of values. -/
def kindName : Datum → String
  | unit => "()"
  | bool _ => "bool"
  | int _ => "i64"
  | char _ => "char"
  | text _ => "string"
  | array _ => "array"
  | object _ => "map"
  | range _ _ inclusive => if inclusive then "range=" else "range"
  | closure _ _ _ => "Fn"
  | function _ => "Fn"

end Datum

end Folio.Script
