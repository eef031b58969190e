import Folio.Rule.Step
import Folio.Url.Link

/-!
# Folio.Rule.Leaf

The last step of a cascade, which turns elements into texts: their text in one
of three forms, their markup, an attribute, or else the text of the first
element that the step selects.
-/

namespace Folio.Rule

open Folio.Text Folio.Markup

/-- What the last step of a cascade asks for. -/
inductive Leaf where
  | flatText
  | ownText
  | textLines
  | markup
  | other (step : List Char)
deriving DecidableEq, Repr

/-- Read the last step of a cascade. -/
def Leaf.read (leaf : List Char) : Leaf :=
  if leaf = "text".toList then .flatText
  else if leaf = "ownText".toList then .ownText
  else if leaf = "textNodes".toList then .textLines
  else if leaf = "html".toList ∨ leaf = "all".toList then .markup
  else .other leaf

/-- The value of an attribute, resolved when the attribute holds a link. -/
def attributeText (base name value : String) : String :=
  if name = "href" ∨ name = "src" then absoluteUrl base value else value

/-- The values of an attribute of the elements that have it; nothing when none
has, or when the name can be that of no attribute. -/
def attributeTexts? (base : String) (leaf : List Char) (elements : List Place) :
    Option (List String) :=
  let name := String.ofList leaf
  let values := elements.filterMap (·.attribute? name)
  if isAttributeName leaf && !values.isEmpty then some (values.map (attributeText base name))
  else none

/-- The texts that a leaf takes from elements. -/
def Leaf.texts (base : String) (elements : List Place) : Leaf → Except Failure (List String)
  | .flatText => .ok (elements.map fun p => Markup.flatText p.node)
  | .ownText => .ok (elements.map fun p => Markup.ownText p.node)
  | .textLines => .ok (elements.map fun p => Markup.textLines p.node)
  | .markup => .ok (elements.map (·.outer))
  | .other leaf =>
    match attributeTexts? base leaf elements with
    | some values => .ok values
    | none => do
      let step ← Step.read leaf
      return ((step.apply elements).take 1).map fun p => Markup.flatText p.node

/-- The texts that a leaf takes from elements, without the empty ones. -/
def extractLeaf (base : String) (elements : List Place) (leaf : Leaf) :
    Except Failure (List String) :=
  (leaf.texts base elements).map fun values => values.filter (· != "")

end Folio.Rule
