/-!
# Folio.Markup.Node

Markup trees and their written form.  A tree is made of elements, texts and
comments; the whole is held by a root that is either a document or a fragment,
and the contents of a `template` element are a fragment within it.
-/

namespace Folio.Markup

/-- The vocabularies that elements belong to. -/
inductive Vocabulary where
  | html
  | svg
  | math
deriving DecidableEq, Repr, Inhabited

/-- The namespaces of attributes that a written name can have. -/
inductive AttributeSpace where
  | plain
  | xml
  | xmlns
  | xlink
deriving DecidableEq, Repr, Inhabited

/-- An attribute; `name` is the local name. -/
structure Attribute where
  space : AttributeSpace
  name : String
  value : String
deriving DecidableEq, Repr, Inhabited

/-- What stands in a start tag.  Attributes have distinct names and keep their
source order.  They are held in a map whose order is only settled where it is set
to keep that of the source; otherwise it is unspecified, and what shows the order
(the markup of an element and the values of all its attributes, `html` and `@*`
of a rule) is determined only up to it. -/
structure Tag where
  vocabulary : Vocabulary
  name : String
  attributes : List Attribute
deriving DecidableEq, Repr, Inhabited

/-- The value of the attribute with the given name. -/
def Tag.attribute? (t : Tag) (name : String) : Option String :=
  (t.attributes.find? fun a => a.space == .plain && a.name == name).map (·.value)

/-- A node of a markup tree. -/
inductive Node where
  | document (children : List Node)
  | fragment (children : List Node)
  | element (tag : Tag) (children : List Node)
  | text (content : String)
  | comment (content : String)
  | doctype (name : String)
deriving Repr, Inhabited

namespace Node

/-- The nodes directly inside a node. -/
def children : Node → List Node
  | document children => children
  | fragment children => children
  | element _ children => children
  | _ => []

/-- The tag of an element. -/
def tag? : Node → Option Tag
  | element tag _ => some tag
  | _ => none

/-- The characters of a text node. -/
def text? : Node → Option String
  | text content => some content
  | _ => none

/-- The node is an element. -/
def isElement (n : Node) : Bool := n.tag?.isSome

/-- The node is the root of a document. -/
def isDocument : Node → Bool
  | document _ => true
  | _ => false

end Node

/-! ## Written form -/

/-- Elements that have no content and no end tag. -/
def voidElements : List String :=
  ["area", "base", "basefont", "bgsound", "br", "col", "embed", "frame", "hr", "img", "input",
    "keygen", "link", "meta", "param", "source", "track", "wbr"]

/-- Elements whose text is written as it stands. -/
def rawTextElements : List String :=
  ["style", "script", "xmp", "iframe", "noembed", "noframes", "plaintext"]

/-- A character of a text. -/
def escapeText (c : Char) : List Char :=
  match c with
  | '&' => "&amp;".toList
  | '<' => "&lt;".toList
  | '>' => "&gt;".toList
  | '\u00A0' => "&nbsp;".toList
  | c => [c]

/-- A character of an attribute's value. -/
def escapeValue (c : Char) : List Char :=
  match c with
  | '&' => "&amp;".toList
  | '"' => "&quot;".toList
  | '\u00A0' => "&nbsp;".toList
  | c => [c]

/-- The characters before the local name of an attribute. -/
def Attribute.qualifier (a : Attribute) : String :=
  match a.space with
  | .plain => ""
  | .xml => "xml:"
  | .xmlns => if a.name = "xmlns" then "" else "xmlns:"
  | .xlink => "xlink:"

/-- An attribute within a start tag. -/
def Attribute.outer (a : Attribute) : String :=
  " " ++ a.qualifier ++ a.name ++ "=\"" ++
    String.ofList (a.value.toList.flatMap escapeValue) ++ "\""

/-- A start tag. -/
def Tag.opening (t : Tag) : String :=
  "<" ++ t.name ++ String.join (t.attributes.map Attribute.outer) ++ ">"

/-- The element has neither content nor end tag. -/
def Tag.isVoid (t : Tag) : Bool := t.vocabulary == .html && voidElements.contains t.name

/-- The element's text is written as it stands. -/
def Tag.isRaw (t : Tag) : Bool := t.vocabulary == .html && rawTextElements.contains t.name

namespace Node

mutual

/-- The written form of a node; `raw` tells that it stands in an element whose
text is written as it stands. -/
def write (raw : Bool) : Node → String
  | document children => writeAll false children
  | fragment children => writeAll raw children
  | element tag children =>
    if tag.isVoid then tag.opening
    else tag.opening ++ writeAll tag.isRaw children ++ "</" ++ tag.name ++ ">"
  | text content => if raw then content else String.ofList (content.toList.flatMap escapeText)
  | comment content => "<!--" ++ content ++ "-->"
  | doctype name => "<!DOCTYPE " ++ name ++ ">"

/-- The written forms of nodes in sequence. -/
def writeAll (raw : Bool) : List Node → String
  | [] => ""
  | n :: rest => write raw n ++ writeAll raw rest

end

/-- The written form of a node, its own tags included. -/
def outer (n : Node) : String := write false n

end Node

end Folio.Markup
