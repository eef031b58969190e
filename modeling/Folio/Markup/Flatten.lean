import Folio.Markup.Place
import Folio.Text.Blank
import Folio.Text.Search

/-!
# Folio.Markup.Flatten

The text of elements.  Flattened text takes in all texts inside an element in
document order; the edges of blocks and line breaks part words, those of other
elements do not, and every run of blanks becomes one space.
-/

namespace Folio.Markup

open Folio.Text

/-! ## Words -/

/-- The maximal runs of characters that are not blank. -/
def words (s : List Char) : List (List Char) := (splitWhere isBlank s).filter (!·.isEmpty)

/-- The words of a text, parted by single spaces. -/
def collapse (s : List Char) : List Char := [' '].intercalate (words s)

/-! ## Texts of elements -/

/-- Elements whose edges part words. -/
def blockElements : List String :=
  ["address", "article", "aside", "blockquote", "br", "dd", "div", "dl", "dt", "footer", "h1",
    "h2", "h3", "h4", "h5", "h6", "header", "hr", "li", "main", "nav", "ol", "p", "pre",
    "section", "table", "td", "th", "tr", "ul"]

/-- The edges of the element part words. -/
def isBlock (t : Tag) : Bool := blockElements.contains t.name

mutual

/-- The characters a node contributes to the text of its parent, before those
that come after it; a block has a space at either edge. -/
def contribution (after : List Char) : Node → List Char
  | .text content => content.toList ++ after
  | .element tag children =>
    if isBlock tag then ' ' :: contributions (' ' :: after) children
    else contributions after children
  | _ => after

/-- The characters that nodes contribute in sequence, before those that come
after them. -/
def contributions (after : List Char) : List Node → List Char
  | [] => after
  | n :: rest => contribution (contributions after rest) n

end

/-- All text inside a node, with blocks parted and blanks collapsed. -/
def flatText (n : Node) : String := String.ofList (collapse (contributions [] n.children))

/-- The texts directly inside a node. -/
def ownTexts (n : Node) : List (List Char) :=
  n.children.filterMap fun c => c.text?.map String.toList

/-- The text directly inside a node, with blanks collapsed. -/
def ownText (n : Node) : String := String.ofList (collapse (ownTexts n).flatten)

/-- The texts directly inside a node, each trimmed, without the blank ones. -/
def trimmedTexts (n : Node) : List (List Char) := ((ownTexts n).map trim).filter (!·.isEmpty)

/-- The texts directly inside a node, a line each. -/
def textLines (n : Node) : String := String.ofList (['\n'].intercalate (trimmedTexts n))

end Folio.Markup
