import Folio.Markup.Parser
import Folio.Markup.Place
import Folio.Text.Blank

/-!
# Folio.Rule.Subject

What rules are applied to: fetched text, or an element that an earlier rule
selected.  Elements are kept in their written form with the name of their tag,
so that they outlive the page; to select inside one, its markup is read again
within the parents it needs.
-/

namespace Folio.Rule

open Folio.Text Folio.Markup

/-- The written form of an element and the name of its tag. -/
structure Excerpt where
  html : String
  tag : String
deriving DecidableEq, Repr

/-- The subject of an extraction. -/
inductive Subject where
  /-- An element found by a cascade. -/
  | markup (excerpt : Excerpt)
  /-- An element found by a location path. -/
  | path (excerpt : Excerpt)
  /-- Fetched content, the output of a script, the value of an attribute or of
  a JSON member. -/
  | text (content : String)
deriving DecidableEq, Repr

/-- The written form of the element at a place. -/
def Excerpt.ofPlace (p : Place) : Excerpt := ⟨p.outer, p.name⟩

namespace Subject

/-- The text that scripts and regular expressions see. -/
def source : Subject → String
  | markup e => e.html
  | path e => e.html
  | text content => content

/-- The same kind of subject with another text. -/
def withSource (s : Subject) (source : String) : Subject :=
  match s with
  | markup e => markup { e with html := source }
  | path e => path { e with html := source }
  | text _ => text source

/-- There is nothing but blanks. -/
def isEmpty (s : Subject) : Bool := isBlankText s.source

/-- The element that was selected, if the subject is one. -/
def excerpt? : Subject → Option Excerpt
  | markup e => some e
  | path e => some e
  | text _ => none

end Subject

/-! ## Reading again -/

/-- The markup within the parents that its element needs: parts of tables and
options are dropped by the reading of markup where they stand alone. -/
def Excerpt.wrapped (e : Excerpt) : String :=
  match e.tag with
  | "tr" => "<table><tbody>" ++ e.html ++ "</tbody></table>"
  | "td" | "th" => "<table><tbody><tr>" ++ e.html ++ "</tr></tbody></table>"
  | "thead" | "tbody" | "tfoot" | "caption" | "colgroup" => "<table>" ++ e.html ++ "</table>"
  | "col" => "<table><colgroup>" ++ e.html ++ "</colgroup></table>"
  | "option" | "optgroup" => "<select>" ++ e.html ++ "</select>"
  | _ => e.html

/-- The element is one that only a whole document has. -/
def Excerpt.isDocumentLevel (e : Excerpt) : Bool := ["html", "head", "body"].contains e.tag

/-- The outermost element of a tree. -/
def rootElement? (tree : Node) : Option Place := (Place.root tree).childElements.head?

/-- The tree of a subject. -/
def Subject.tree (s : Subject) : Node :=
  match s.excerpt? with
  | none => parseDocument s.source
  | some e => if e.isDocumentLevel then parseDocument e.html else parseFragment e.wrapped

/-- The element that stands for the subject in its tree: the outermost one, or
the first of the excerpt's tag. -/
def Subject.root? (s : Subject) : Option Place := do
  let root ← rootElement? s.tree
  match s.excerpt? with
  | none => some root
  | some e => if e.tag = "html" then some root else root.elementsBelow.find? (·.name == e.tag)

end Folio.Rule
