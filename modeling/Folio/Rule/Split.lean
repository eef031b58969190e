/-!
# Folio.Rule.Split

Cutting a rule at a delimiter.  Every level of the rule language (alternatives,
cascades, unions, paths, predicates) is cut by `splitTopLevel`: at each
delimiter that stands outside square brackets and parentheses and, where
`quotes` is set, outside quoted spans.
-/

namespace Folio.Rule

/-- How deep in brackets a scan is, and the quotation mark it is inside. -/
structure Nesting where
  depth : Nat
  quote : Option Char
deriving DecidableEq, Repr

namespace Nesting

/-- Outside all brackets and quotes. -/
def top : Nesting := ⟨0, none⟩

/-- The nesting after one more character.  A closing bracket that nothing
opened counts for nothing. -/
def step (quotes : Bool) (n : Nesting) (c : Char) : Nesting :=
  match n.quote with
  | some q => if c = q then { n with quote := none } else n
  | none =>
    if quotes && (c == '\'' || c == '"') then { n with quote := some c }
    else if c = '[' ∨ c = '(' then { n with depth := n.depth + 1 }
    else if c = ']' ∨ c = ')' then { n with depth := n.depth - 1 }
    else n

end Nesting

/-- The character may begin a delimiter: it is neither a bracket nor, where
quotes count, a quotation mark. -/
def isPlain (quotes : Bool) (c : Char) : Bool :=
  !(c == '[' || c == '(' || c == ']' || c == ')' || (quotes && (c == '\'' || c == '"')))

/-- Put a character in front of the first piece. -/
def consFirst (c : Char) : List (List Char) → List (List Char)
  | [] => [[c]]
  | piece :: rest => (c :: piece) :: rest

/-- The pieces of a text from a place of the scan on; the next `skip`
characters belong to a delimiter that has been found. -/
def splitFrom (delim : List Char) (quotes : Bool) (n : Nesting) (skip : Nat) :
    List Char → List (List Char)
  | [] => [[]]
  | c :: cs =>
    match skip with
    | skip + 1 => splitFrom delim quotes n skip cs
    | 0 =>
      if n = .top ∧ isPlain quotes c ∧ delim.isPrefixOf (c :: cs) then
        [] :: splitFrom delim quotes n (delim.length - 1) cs
      else consFirst c (splitFrom delim quotes (n.step quotes c) 0 cs)

/-- The pieces of a text between the delimiters that stand outside brackets
and, with `quotes`, outside quoted spans. -/
def splitTopLevel (delim : List Char) (quotes : Bool) (s : List Char) : List (List Char) :=
  splitFrom delim quotes .top 0 s

end Folio.Rule
