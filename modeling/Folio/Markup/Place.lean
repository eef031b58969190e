import Folio.Markup.Node

/-!
# Folio.Markup.Place

Places in a markup tree: a node together with the nodes that enclose it.  Two
places of one tree are the same when their paths are, so that equal nodes at
different places are told apart; document order is the order in which
`below` lists places.
-/

namespace Folio.Markup

/-- A step down the tree: the enclosing node, and which of its children was
taken. -/
structure Descent where
  parent : Node
  index : Nat
deriving Repr, Inhabited

/-- A node of a tree with its enclosing nodes, the innermost first. -/
structure Place where
  node : Node
  trail : List Descent
deriving Repr, Inhabited

namespace Place

/-- The place of the root of a tree. -/
def root (tree : Node) : Place := ⟨tree, []⟩

/-- The child positions on the way from the root, the last first. -/
def path (p : Place) : List Nat := p.trail.map (·.index)

/-- The two places of a tree are the same. -/
def same (p q : Place) : Bool := p.path == q.path

/-- The tag of the element at a place. -/
def tag? (p : Place) : Option Tag := p.node.tag?

/-- An element stands at the place. -/
def isElement (p : Place) : Bool := p.node.isElement

/-- The place of the enclosing node. -/
def parent? (p : Place) : Option Place :=
  match p.trail with
  | [] => none
  | d :: rest => some ⟨d.parent, rest⟩

/-- The place of the enclosing node, when it is an element. -/
def parentElement? (p : Place) : Option Place := p.parent?.filter isElement

/-- The places of nodes that are the children of `parent` from the position
`index` on. -/
def siblingsFrom (parent : Node) (trail : List Descent) : Nat → List Node → List Place
  | _, [] => []
  | index, n :: rest => ⟨n, ⟨parent, index⟩ :: trail⟩ :: siblingsFrom parent trail (index + 1) rest

/-- The places directly inside a place. -/
def children (p : Place) : List Place := siblingsFrom p.node p.trail 0 p.node.children

/-- The elements directly inside a place. -/
def childElements (p : Place) : List Place := p.children.filter isElement

mutual

/-- The places inside a node, in document order, and then the given ones. -/
def inside (trail : List Descent) (after : List Place) : Node → List Place
  | .document children => insideAll (.document children) trail after 0 children
  | .fragment children => insideAll (.fragment children) trail after 0 children
  | .element tag children => insideAll (.element tag children) trail after 0 children
  | _ => after

/-- The places of children and of what is inside them, in document order, and
then the given ones. -/
def insideAll (parent : Node) (trail : List Descent) (after : List Place) (index : Nat) :
    List Node → List Place
  | [] => after
  | n :: rest =>
    ⟨n, ⟨parent, index⟩ :: trail⟩ ::
      inside (⟨parent, index⟩ :: trail) (insideAll parent trail after (index + 1) rest) n

end

/-- All places inside a place, in document order. -/
def below (p : Place) : List Place := inside p.trail [] p.node

/-- All elements inside a place, in document order. -/
def elementsBelow (p : Place) : List Place := p.below.filter isElement

/-- The elements that enclose a place, the innermost first, up to the first
node that is none. -/
def ancestors (p : Place) : List Place := go p.trail
where
  /-- The enclosing elements along a trail. -/
  go : List Descent → List Place
    | [] => []
    | d :: rest => if d.parent.isElement then ⟨d.parent, rest⟩ :: go rest else []

/-- The places beside a place, itself included, in document order. -/
def siblings (p : Place) : List Place :=
  match p.parent? with
  | some parent => parent.children
  | none => [p]

/-- The position of a place among its siblings. -/
def index (p : Place) : Nat :=
  match p.trail with
  | d :: _ => d.index
  | [] => 0

/-- The elements before a place with the same parent, the nearest first. -/
def elementsBefore (p : Place) : List Place :=
  ((p.siblings.take p.index).filter isElement).reverse

/-- The elements after a place with the same parent, the nearest first. -/
def elementsAfter (p : Place) : List Place :=
  (p.siblings.drop (p.index + 1)).filter isElement

/-- The value of an attribute of the element at a place. -/
def attribute? (p : Place) (name : String) : Option String := p.tag?.bind (·.attribute? name)

/-- The local name of the element at a place. -/
def name (p : Place) : String := (p.tag?.map (·.name)).getD ""

/-- The written form of the node at a place. -/
def outer (p : Place) : String := p.node.outer

end Place

end Folio.Markup
