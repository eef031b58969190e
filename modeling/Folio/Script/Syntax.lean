/-!
# Folio.Script.Syntax

Scripts as trees.  Whatever a script can write is an expression: statements
too have a value, which for most is the unit.
-/

namespace Folio.Script

/-- A constant. -/
inductive Literal where
  | unit
  | bool (b : Bool)
  | int (n : Int)
  | char (c : Char)
  | text (s : String)
deriving DecidableEq, Repr

/-- What a case of a choice accepts. -/
inductive CasePattern where
  | exactly (l : Literal)
  | between (low high : Int) (inclusive : Bool)
deriving DecidableEq, Repr

mutual

/-- An expression. -/
inductive Expr where
  | literal (l : Literal)
  | variable (name : String)
  /-- A text with insertions. -/
  | template (parts : List Expr)
  | array (items : List Expr)
  | object (keys : List String) (values : List Expr)
  /-- A function or an operator applied to arguments. -/
  | call (name : String) (args : List Expr)
  /-- A value and the links that lead on from it. -/
  | chain (root : Expr) (links : List Link)
  | both (left right : Expr)
  | either (left right : Expr)
  /-- The right side where the left is the unit. -/
  | orElse (left right : Expr)
  | closure (params : List String) (body : Expr)
  | block (body : List Expr)
  | declare (constant : Bool) (name : String) (value : Option Expr)
  /-- An assignment, with the operator that joins the old and the new value. -/
  | assign (target : Expr) (operator : Option String) (value : Expr)
  | branch (condition yes : Expr) (no : Option Expr)
  | choose (subject : Expr) (cases : List Case)
  /-- A loop that runs while the condition has the value `expected`. -/
  | whileLoop (expected : Bool) (condition body : Expr)
  /-- A loop that runs once before it looks at its condition. -/
  | doLoop (expected : Bool) (condition body : Expr)
  | forLoop (name : String) (counter : Option String) (items body : Expr)
  | attempt (body : Expr) (name : Option String) (handler : Expr)
  | throw (value : Option Expr)
  | giveBack (value : Option Expr)
  | leaveLoop (value : Option Expr)
  | nextRound

/-- A step from a value to one of its parts or to the result of a method. -/
inductive Link where
  | index (position : Expr)
  | member (name : String)
  | method (name : String) (args : List Expr)

/-- A case of a choice; no patterns accept everything. -/
inductive Case where
  | mk (patterns : Option (List CasePattern)) (condition : Option Expr) (body : Expr)

end

/-- A function of a script. -/
structure Function where
  name : String
  params : List String
  body : Expr

/-- A script. -/
structure Program where
  functions : List Function
  body : List Expr

end Folio.Script
