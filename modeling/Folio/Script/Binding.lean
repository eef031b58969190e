/-!
# Folio.Script.Binding

What a script is given and what it returns.  A script sees the current content
as `result`, the URL of the page as `baseUrl`, and the variables its caller
names.
-/

namespace Folio.Script

/-- The value of `result`. -/
inductive Input where
  | text (content : String)
  | list (items : List String)
deriving DecidableEq, Repr

/-- What a script is given. -/
structure Bindings where
  result : Input
  baseUrl : String
  /-- Named variables, ascending by name. -/
  vars : List (String × String)
deriving DecidableEq, Repr

/-- The variables with one more, or with another value for one. -/
def insertVar (name value : String) : List (String × String) → List (String × String)
  | [] => [(name, value)]
  | (n, v) :: rest =>
    if name < n then (name, value) :: (n, v) :: rest
    else if name = n then (name, value) :: rest
    else (n, v) :: insertVar name value rest

/-- Bindings without variables. -/
def Bindings.of (result : Input) (baseUrl : String) : Bindings := ⟨result, baseUrl, []⟩

/-- The bindings with one more variable. -/
def Bindings.withVar (b : Bindings) (name value : String) : Bindings :=
  { b with vars := insertVar name value b.vars }

/-- What a script returns. -/
inductive Value where
  | empty
  | text (content : String)
  | list (items : List String)
deriving DecidableEq, Repr

namespace Value

/-- The texts of a value. -/
def texts : Value → List String
  | empty => []
  | text content => [content]
  | list items => items

/-- The value as one text; the items of a list are joined by line feeds. -/
def intoText (v : Value) : String := "\n".intercalate v.texts

/-- The value holds nothing. -/
def isEmpty : Value → Bool
  | empty => true
  | text content => content.isEmpty
  | list items => items.isEmpty

end Value

end Folio.Script
