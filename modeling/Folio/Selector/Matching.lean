import Folio.Markup.Place
import Folio.Selector.Syntax
import Folio.Text.Ascii
import Folio.Text.Blank
import Folio.Text.Search

/-!
# Folio.Selector.Matching

When an element matches a selector.  The conditions of a compound selector all
have to hold; a chain matches an element when its last member does and some
element related as the combinator says matches the chain before it.
-/

namespace Folio.Selector

open Folio.Markup Folio.Text

/-- The element a selection starts from, and the one a relative selector
starts from. -/
structure Context where
  scope : Place
  anchor : Option Place

/-! ## Attributes -/

/-- Attributes of ordinary markup in whose values letter case does not count. -/
def caselessAttributes : List String :=
  ["accept", "accept-charset", "align", "alink", "axis", "bgcolor", "charset", "checked",
    "clear", "codetype", "color", "compact", "declare", "defer", "dir", "direction",
    "disabled", "enctype", "face", "frame", "hreflang", "http-equiv", "lang", "language",
    "link", "media", "method", "multiple", "nohref", "noresize", "noshade", "nowrap",
    "readonly", "rel", "rev", "rules", "scope", "scrolling", "selected", "shape", "target",
    "text", "type", "valign", "valuetype", "vlink"]

/-- A value satisfies a comparison.  An empty value begins, ends and contains
nothing. -/
def Comparison.holds (c : Comparison) (actual expected : List Char) : Bool :=
  match c with
  | .equals => actual == expected
  | .includes =>
    !expected.isEmpty && !expected.any isAsciiBlank &&
      (splitWhere isAsciiBlank actual).contains expected
  | .dashMatch => actual == expected || Text.startsWith (expected ++ ['-']) actual
  | .startsWith => !expected.isEmpty && Text.startsWith expected actual
  | .endsWith => !expected.isEmpty && Text.endsWith expected actual
  | .contains => !expected.isEmpty && Text.contains expected actual

/-- The name of an element or attribute as a selector means it: in ordinary
markup without regard to letter case. -/
def meantName (t : Tag) (name : String) : String :=
  if t.vocabulary == .html then toLowerAscii name else name

/-- The attributes of a tag that a selector means by a name. -/
def meantAttributes (t : Tag) (anywhere : Bool) (name : String) : List Attribute :=
  t.attributes.filter fun a => (anywhere || a.space == .plain) && a.name == meantName t name

/-- A tag satisfies a condition on an attribute's value. -/
def attributeHolds (t : Tag) (anywhere : Bool) (name : String) (comparison : Comparison)
    (value : String) (letterCase : LetterCase) : Bool :=
  let caseless : Bool := match letterCase with
    | .sensitive => false
    | .insensitive => true
    | .byName =>
      !anywhere && t.vocabulary == .html && caselessAttributes.contains (toLowerAscii name)
  let fold := fun s : String => if caseless then s.toList.map lowerAscii else s.toList
  (meantAttributes t anywhere name).any fun a => comparison.holds (fold a.value) (fold value)

/-- The value of the first attribute of a local name, in whatever namespace. -/
def firstNamed? (t : Tag) (name : String) : Option String :=
  (t.attributes.find? fun a => a.name == name).map (·.value)

/-- The classes of an element. -/
def classes (t : Tag) : List (List Char) :=
  (t.attributes.filter fun a => a.name == "class").flatMap fun a =>
    (splitWhere isBlank a.value.toList).filter (!·.isEmpty)

/-! ## Positions -/

/-- The elements beside a place that count for its position. -/
def counted (ofType : Bool) (p : Place) (others : List Place) : List Place :=
  if ofType then
    others.filter fun q =>
      q.name == p.name && q.tag?.map (·.vocabulary) == p.tag?.map (·.vocabulary)
  else others

/-- The position among siblings, counted from one. -/
def siblingPosition (fromEnd ofType : Bool) (p : Place) : Nat :=
  (counted ofType p (if fromEnd then p.elementsAfter else p.elementsBefore)).length + 1

/-- The number is `a * n + b` for some natural `n`. -/
def isMultiple (a b : Int) (index : Nat) : Bool :=
  let d : Int := index - b
  if a = 0 then d == 0 else d % a == 0 && 0 ≤ d / a

/-! ## Relations -/

/-- The elements that a combinator relates to a place from the left. -/
def Combinator.lefts (c : Combinator) (p : Place) : List Place :=
  match c with
  | .descendant => p.ancestors
  | .child => p.ancestors.take 1
  | .nextSibling => p.elementsBefore.take 1
  | .laterSibling => p.elementsBefore

/-- The elements that a selector relative to a place may mean. -/
def candidates (p : Place) : List Place :=
  p.elementsBelow ++ p.elementsAfter.flatMap fun q => q :: q.elementsBelow

mutual

/-- An element satisfies a condition. -/
def Simple.holds (s : Simple) (ctx : Context) (p : Place) : Bool :=
  match s with
  | .universal => true
  | .noNamespace => false
  | .type name =>
    match p.tag? with
    | some t => t.name == meantName t name
    | none => false
  | .id name =>
    match p.tag?.bind (firstNamed? · "id") with
    | some id => id == name
    | none => false
  | .cls name =>
    match p.tag? with
    | some t => (classes t).contains name.toList
    | none => false
  | .hasAttribute anywhere name =>
    match p.tag? with
    | some t => !(meantAttributes t anywhere name).isEmpty
    | none => false
  | .attribute anywhere name comparison value letterCase =>
    match p.tag? with
    | some t => attributeHolds t anywhere name comparison value letterCase
    | none => false
  | .nth fromEnd ofType a b => isMultiple a b (siblingPosition fromEnd ofType p)
  | .only ofType =>
    siblingPosition false ofType p == 1 && siblingPosition true ofType p == 1
  | .root => (p.parent?.map fun q => q.node.isDocument).getD false
  | .empty => !(p.node.children.any fun n => n.isElement || n.text?.isSome)
  | .scope => p.same ctx.scope
  | .anchor =>
    match ctx.anchor with
    | some q => p.same q
    | none => false
  | .anyOf list => anyHolds list ctx p
  | .noneOf list => !anyHolds list ctx p
  | .related list => anyRelated list ctx p

/-- An element satisfies all conditions. -/
def allHold (conditions : List Simple) (ctx : Context) (p : Place) : Bool :=
  match conditions with
  | [] => true
  | s :: rest => s.holds ctx p && allHold rest ctx p

/-- An element matches a chain. -/
def Complex.holds (c : Complex) (ctx : Context) (p : Place) : Bool :=
  match c with
  | .compound conditions => allHold conditions ctx p
  | .joined left combinator conditions =>
    allHold conditions ctx p && (combinator.lefts p).any fun q => left.holds ctx q

/-- An element matches one of a list of selectors. -/
def anyHolds (list : List Complex) (ctx : Context) (p : Place) : Bool :=
  match list with
  | [] => false
  | c :: rest => c.holds ctx p || anyHolds rest ctx p

/-- Some element related to this one matches one of a list of selectors. -/
def anyRelated (list : List Complex) (ctx : Context) (p : Place) : Bool :=
  match list with
  | [] => false
  | c :: rest =>
    (candidates p).any (fun q => c.holds { ctx with anchor := some p } q) ||
      anyRelated rest ctx p

end

/-- The elements inside a place that match a selector, in document order. -/
def SelectorList.select (list : SelectorList) (scope : Place) : List Place :=
  scope.elementsBelow.filter fun p => anyHolds list ⟨scope, none⟩ p

end Folio.Selector
