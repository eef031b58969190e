/-!
# Folio.Toml.Value

TOML values and the growth of a document.  A table remembers how it came to be,
which decides what may still be added to it: a table is headed at most once, a
dotted key extends only tables that have no header of their own, and an inline
table is closed.
-/

namespace Folio.Toml

/-- How a table came to be. -/
inductive TableKind where
  /-- It is only named on the way to a table within it. -/
  | implied
  /-- A dotted key leads through it. -/
  | dotted
  /-- It has a header. -/
  | headed
  /-- It is written in braces. -/
  | inline
deriving DecidableEq, Repr

/-- A value.  Floats and dates keep their written form. -/
inductive Value where
  | string (text : String)
  | integer (value : Int)
  | float (written : String)
  | boolean (value : Bool)
  | dateTime (written : String)
  | array (items : List Value)
  /-- An array of tables that have headers. -/
  | tables (items : List Value)
  | table (kind : TableKind) (entries : List (String × Value))
deriving Repr

/-- The entries of a table, in the order in which they are written. -/
abbrev Entries := List (String × Value)

namespace Value

/-- The last table of an array of tables. -/
def lastTable? (items : List Value) : Option (TableKind × Entries) :=
  match items.getLast? with
  | some (table kind entries) => some (kind, entries)
  | _ => none

end Value

namespace Entries

/-- The entries with another value for a key. -/
def replace (key : String) (value : Value) (entries : Entries) : Entries :=
  entries.map fun (k, v) => if k = key then (k, value) else (k, v)

/-- A table may be extended on the way of a path: a header may pass through all
tables but inline ones, and a dotted key only through those without a
header. -/
def isPassable (dotted : Bool) (kind : TableKind) : Bool :=
  match kind with
  | .implied | .dotted => true
  | .headed => !dotted
  | .inline => false

/-- Change the table at the end of a path.  Tables that are missing on the way
are added.  A header passes through the last table of an array of tables. -/
def changeAt? (dotted : Bool) (change? : TableKind → Entries → Option Entries) :
    List String → TableKind → Entries → Option Entries
  | [], kind, entries => change? kind entries
  | key :: path, _, entries =>
    match entries.lookup key with
    | none => do
      let kind := if dotted then .dotted else .implied
      let inner ← changeAt? dotted change? path kind []
      return entries ++ [(key, .table kind inner)]
    | some (.table kind inner) =>
      if isPassable dotted kind then do
        let inner ← changeAt? dotted change? path kind inner
        return replace key (.table kind inner) entries
      else none
    | some (.tables items) =>
      if dotted then none
      else do
        let (kind, inner) ← Value.lastTable? items
        let inner ← changeAt? dotted change? path kind inner
        return replace key (.tables (items.dropLast ++ [.table kind inner])) entries
    | some _ => none

/-- Add a value under a dotted key; `path` is the key without its last part,
and the key must be new. -/
def set? (path : List String) (key : String) (value : Value) (kind : TableKind)
    (entries : Entries) : Option Entries :=
  let add? (parent : TableKind) (entries : Entries) : Option Entries :=
    if (!path.isEmpty && parent != .dotted) || (entries.lookup key).isSome then none
    else some (entries ++ [(key, value)])
  changeAt? true add? path kind entries

/-- Add the table of a header. -/
def head? (path : List String) (key : String) (entries : Entries) : Option Entries :=
  let add? (_ : TableKind) (entries : Entries) : Option Entries :=
    match entries.lookup key with
    | none => some (entries ++ [(key, .table .headed [])])
    | some (.table .implied inner) => some (replace key (.table .headed inner) entries)
    | some _ => none
  changeAt? false add? path .headed entries

/-- Add a table to an array of tables. -/
def headItem? (path : List String) (key : String) (entries : Entries) : Option Entries :=
  let item : Value := .table .headed []
  let add? (_ : TableKind) (entries : Entries) : Option Entries :=
    match entries.lookup key with
    | none => some (entries ++ [(key, .tables [item])])
    | some (.tables items) => some (replace key (.tables (items ++ [item])) entries)
    | some _ => none
  changeAt? false add? path .headed entries

end Entries

end Folio.Toml
