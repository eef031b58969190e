/-!
# Folio.Selector.Syntax

Selectors: which elements of a markup tree are meant.  A complex selector is a
chain of compound selectors joined by combinators, read from its last member;
a compound selector is a list of conditions on one element.
-/

namespace Folio.Selector

/-- How two members of a chain are related. -/
inductive Combinator where
  | descendant
  | child
  | nextSibling
  | laterSibling
deriving DecidableEq, Repr

/-- How an attribute's value is compared. -/
inductive Comparison where
  | equals
  | includes
  | dashMatch
  | startsWith
  | endsWith
  | contains
deriving DecidableEq, Repr

/-- Whether the case of ASCII letters counts in a comparison.  `byName` leaves
it to the attribute: for some of ordinary markup it does not. -/
inductive LetterCase where
  | byName
  | sensitive
  | insensitive
deriving DecidableEq, Repr

mutual

/-- A condition on one element. -/
inductive Simple where
  | universal
  /-- No element of a markup tree is outside all namespaces. -/
  | noNamespace
  | type (name : String)
  | id (name : String)
  | cls (name : String)
  /-- The attribute is there, in whatever namespace when `anywhere` is set. -/
  | hasAttribute (anywhere : Bool) (name : String)
  | attribute (anywhere : Bool) (name : String) (comparison : Comparison) (value : String)
      (letterCase : LetterCase)
  /-- The position among siblings is `a * n + b` for some natural `n`. -/
  | nth (fromEnd ofType : Bool) (a b : Int)
  | only (ofType : Bool)
  | root
  | empty
  | scope
  /-- The element that a relative selector starts from. -/
  | anchor
  | anyOf (list : List Complex)
  | noneOf (list : List Complex)
  /-- Some element related to this one, its anchor, is meant. -/
  | related (list : List Complex)

/-- A chain of compound selectors, given by its last member. -/
inductive Complex where
  | compound (conditions : List Simple)
  | joined (left : Complex) (combinator : Combinator) (conditions : List Simple)

end

/-- A list of selectors, of which one has to match. -/
abbrev SelectorList := List Complex

end Folio.Selector
