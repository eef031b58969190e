import Folio.Json.Binary64

/-!
# Folio.Json.Value

JSON values.  Integers that fit 64 bits, signed or unsigned, are exact; every
other number is a double.  The members of an object are kept in the order of
their keys, each key once; `Json.insert` keeps it so and lets the last value
given for a key stand.
-/

namespace Folio

/-- A number: a 64-bit integer or a double. -/
inductive Json.Number where
  | int (value : Int)
  | float (value : Json.Binary64)
deriving DecidableEq, Repr

/-- A JSON value. -/
inductive Json where
  | null
  | bool (value : Bool)
  | number (value : Json.Number)
  | string (text : String)
  | array (items : List Json)
  | object (members : List (String × Json))
deriving Repr, Inhabited

namespace Json

/-- Set a key among members in key order. -/
def insert (key : String) (value : Json) : List (String × Json) → List (String × Json)
  | [] => [(key, value)]
  | (k, v) :: rest =>
    if key < k then (key, value) :: (k, v) :: rest
    else if key = k then (key, value) :: rest
    else (k, v) :: insert key value rest

/-- The members in key order, the last value of each key. -/
def sortMembers (members : List (String × Json)) : List (String × Json) :=
  members.foldl (fun sorted (k, v) => insert k v sorted) []

/-- The object with the given members, the last of a repeated key. -/
def ofMembers (members : List (String × Json)) : Json := object (sortMembers members)

/-- An integer value. -/
def int (n : Int) : Json := number (.int n)

/-- A natural number. -/
def nat (n : Nat) : Json := int n

/-- A string, or null when there is none. -/
def ofOption : Option String → Json
  | some s => string s
  | none => null

/-- The member of an object with the given key. -/
def get? (key : String) : Json → Option Json
  | object members => members.lookup key
  | _ => none

/-- The text of a string value. -/
def string? : Json → Option String
  | string s => some s
  | _ => none

/-- The items of an array. -/
def items? : Json → Option (List Json)
  | array items => some items
  | _ => none

/-- The members of an object. -/
def members? : Json → Option (List (String × Json))
  | object members => some members
  | _ => none

/-- The value of an integer. -/
def int? : Json → Option Int
  | number (.int n) => some n
  | _ => none

/-- The value of a boolean. -/
def bool? : Json → Option Bool
  | bool b => some b
  | _ => none

end Json

end Folio
