import Folio.Markup.Node
import Folio.Markup.Token

/-!
# Folio.Markup.Elements

What the tree under construction has to know about elements: which are
special, which bound a scope, which end by themselves, how names within
vector graphics and formulas are spelled, and which declarations put a
document into the layout mode of old.
-/

namespace Folio.Markup

/-- The name of an element: its vocabulary and its local name. -/
abbrev ElementName := Vocabulary × String

/-- Elements that end formatting and bound end tags. -/
def specialElements : List String :=
  ["address", "applet", "area", "article", "aside", "base", "basefont", "bgsound",
    "blockquote", "body", "br", "button", "caption", "center", "col", "colgroup", "dd",
    "details", "dir", "div", "dl", "dt", "embed", "fieldset", "figcaption", "figure",
    "footer", "form", "frame", "frameset", "h1", "h2", "h3", "h4", "h5", "h6", "head",
    "header", "hgroup", "hr", "html", "iframe", "img", "input", "isindex", "li", "link",
    "listing", "main", "marquee", "menu", "meta", "nav", "noembed", "noframes", "noscript",
    "object", "ol", "p", "param", "plaintext", "pre", "script", "section", "select",
    "source", "style", "summary", "table", "tbody", "td", "template", "textarea", "tfoot",
    "th", "thead", "title", "tr", "track", "ul", "wbr", "xmp"]

/-- Elements of formulas that hold text read as ordinary markup. -/
def isMathText (n : ElementName) : Bool :=
  n.1 == .math && ["mi", "mo", "mn", "ms", "mtext"].contains n.2

/-- Elements of vector graphics that hold ordinary markup. -/
def isGraphicsIntegration (n : ElementName) : Bool :=
  n.1 == .svg && ["foreignObject", "desc", "title"].contains n.2

/-- Elements that end formatting and bound end tags. -/
def isSpecial (n : ElementName) : Bool :=
  (n.1 == .html && specialElements.contains n.2) || isMathText n || isGraphicsIntegration n

/-- Special elements that also end the search for an open list item. -/
def boundsItem (n : ElementName) : Bool :=
  isSpecial n && !(n.1 == .html && ["address", "div", "p"].contains n.2)

/-- The element is one of the ordinary elements named. -/
def isOneOf (names : List String) (n : ElementName) : Bool := n.1 == .html && names.contains n.2

/-- Elements that bound the search for an open element. -/
def boundsScope (n : ElementName) : Bool :=
  isOneOf ["applet", "caption", "html", "table", "td", "th", "marquee", "object", "template"] n ||
    isMathText n || isGraphicsIntegration n

/-- Elements that bound the search for an open list item. -/
def boundsListScope (n : ElementName) : Bool := boundsScope n || isOneOf ["ol", "ul"] n

/-- Elements that bound the search for an open paragraph. -/
def boundsButtonScope (n : ElementName) : Bool := boundsScope n || isOneOf ["button"] n

/-- Elements that bound the search for an open part of a table. -/
def boundsTableScope (n : ElementName) : Bool := isOneOf ["html", "table", "template"] n

/-- Elements that bound the search for an open selection list. -/
def boundsSelectScope (n : ElementName) : Bool := !isOneOf ["optgroup", "option"] n

/-- Elements whose end tag may be left out. -/
def endsByItself : List String :=
  ["dd", "dt", "li", "option", "optgroup", "p", "rb", "rp", "rt", "rtc"]

/-- Elements whose end tag may be left out at the end of a template. -/
def endsWithTemplate : List String :=
  endsByItself ++ ["caption", "colgroup", "tbody", "td", "tfoot", "th", "thead", "tr"]

/-- Headings. -/
def headings : List String := ["h1", "h2", "h3", "h4", "h5", "h6"]

/-- Start tags that end vector graphics or a formula. -/
def endsForeign : List String :=
  ["b", "big", "blockquote", "body", "br", "center", "code", "dd", "div", "dl", "dt", "em",
    "embed", "h1", "h2", "h3", "h4", "h5", "h6", "head", "hr", "i", "img", "li", "listing",
    "menu", "meta", "nobr", "ol", "p", "pre", "ruby", "s", "small", "span", "strong",
    "strike", "sub", "sup", "table", "tt", "u", "ul", "var"]

/-! ## Spelling within vector graphics and formulas -/

/-- Names of elements of vector graphics that have capitals. -/
def graphicsElements : List String :=
  ["altGlyph", "altGlyphDef", "altGlyphItem", "animateColor", "animateMotion",
    "animateTransform", "clipPath", "feBlend", "feColorMatrix", "feComponentTransfer",
    "feComposite", "feConvolveMatrix", "feDiffuseLighting", "feDisplacementMap",
    "feDistantLight", "feDropShadow", "feFlood", "feFuncA", "feFuncB", "feFuncG", "feFuncR",
    "feGaussianBlur", "feImage", "feMerge", "feMergeNode", "feMorphology", "feOffset",
    "fePointLight", "feSpecularLighting", "feSpotLight", "feTile", "feTurbulence",
    "foreignObject", "glyphRef", "linearGradient", "radialGradient", "textPath"]

/-- Names of attributes of vector graphics that have capitals. -/
def graphicsAttributes : List String :=
  ["attributeName", "attributeType", "baseFrequency", "baseProfile", "calcMode",
    "clipPathUnits", "diffuseConstant", "edgeMode", "filterUnits", "glyphRef",
    "gradientTransform", "gradientUnits", "kernelMatrix", "kernelUnitLength", "keyPoints",
    "keySplines", "keyTimes", "lengthAdjust", "limitingConeAngle", "markerHeight",
    "markerUnits", "markerWidth", "maskContentUnits", "maskUnits", "numOctaves",
    "pathLength", "patternContentUnits", "patternTransform", "patternUnits", "pointsAtX",
    "pointsAtY", "pointsAtZ", "preserveAlpha", "preserveAspectRatio", "primitiveUnits",
    "refX", "refY", "repeatCount", "repeatDur", "requiredExtensions", "requiredFeatures",
    "specularConstant", "specularExponent", "spreadMethod", "startOffset", "stdDeviation",
    "stitchTiles", "surfaceScale", "systemLanguage", "tableValues", "targetX", "targetY",
    "textLength", "viewBox", "viewTarget", "xChannelSelector", "yChannelSelector",
    "zoomAndPan"]

/-- The spelling of a name among the given spellings. -/
def respell (spellings : List String) (name : String) : String :=
  (spellings.find? fun s => Text.toLowerAscii s == name).getD name

/-- The name of an element as its vocabulary spells it. -/
def spelledElement (v : Vocabulary) (name : String) : String :=
  if v = .svg then respell graphicsElements name else name

/-- An attribute as the vocabulary of its element spells it. -/
def spelledAttribute (v : Vocabulary) (name value : String) : Attribute :=
  match v with
  | .html => ⟨.plain, name, value⟩
  | v =>
    let name := match v with
      | .svg => respell graphicsAttributes name
      | _ => if name = "definitionurl" then "definitionURL" else name
    if ["xlink:actuate", "xlink:arcrole", "xlink:href", "xlink:role", "xlink:show",
        "xlink:title", "xlink:type"].contains name then
      ⟨.xlink, String.ofList (name.toList.drop 6), value⟩
    else if name = "xml:lang" ∨ name = "xml:space" then
      ⟨.xml, String.ofList (name.toList.drop 4), value⟩
    else if name = "xmlns" then ⟨.xmlns, "xmlns", value⟩
    else if name = "xmlns:xlink" then ⟨.xmlns, "xlink", value⟩
    else ⟨.plain, name, value⟩

/-- The tag of an element of a vocabulary. -/
def RawTag.inVocabulary (t : RawTag) (v : Vocabulary) : Tag :=
  ⟨v, spelledElement v t.name, t.attributes.map fun (name, value) => spelledAttribute v name value⟩

/-! ## The layout mode of old -/

/-- Beginnings of public identifiers of old document types. -/
def oldPublicPrefixes : List String :=
  ["-//advasoft ltd//dtd html 3.0 aswedit + extensions//",
    "-//as//dtd html 3.0 aswedit + extensions//",
    "-//ietf//dtd html 2.0 level 1//", "-//ietf//dtd html 2.0 level 2//",
    "-//ietf//dtd html 2.0 strict level 1//", "-//ietf//dtd html 2.0 strict level 2//",
    "-//ietf//dtd html 2.0 strict//", "-//ietf//dtd html 2.0//", "-//ietf//dtd html 2.1e//",
    "-//ietf//dtd html 3.0//", "-//ietf//dtd html 3.2 final//", "-//ietf//dtd html 3.2//",
    "-//ietf//dtd html 3//", "-//ietf//dtd html level 0//", "-//ietf//dtd html level 1//",
    "-//ietf//dtd html level 2//", "-//ietf//dtd html level 3//",
    "-//ietf//dtd html strict level 0//", "-//ietf//dtd html strict level 1//",
    "-//ietf//dtd html strict level 2//", "-//ietf//dtd html strict level 3//",
    "-//ietf//dtd html strict//", "-//ietf//dtd html//", "-//metrius//dtd metrius presentational//",
    "-//microsoft//dtd internet explorer 2.0 html strict//",
    "-//microsoft//dtd internet explorer 2.0 html//",
    "-//microsoft//dtd internet explorer 2.0 tables//",
    "-//microsoft//dtd internet explorer 3.0 html strict//",
    "-//microsoft//dtd internet explorer 3.0 html//",
    "-//microsoft//dtd internet explorer 3.0 tables//", "-//netscape comm. corp.//dtd html//",
    "-//netscape comm. corp.//dtd strict html//", "-//o'reilly and associates//dtd html 2.0//",
    "-//o'reilly and associates//dtd html extended 1.0//",
    "-//o'reilly and associates//dtd html extended relaxed 1.0//",
    "-//softquad software//dtd hotmetal pro 6.0::19990601::extensions to html 4.0//",
    "-//softquad//dtd hotmetal pro 4.0::19971010::extensions to html 4.0//",
    "-//spyglass//dtd html 2.0 extended//", "-//sq//dtd html 2.0 hotmetal + extensions//",
    "-//sun microsystems corp.//dtd hotjava html//",
    "-//sun microsystems corp.//dtd hotjava strict html//", "-//w3c//dtd html 3 1995-03-24//",
    "-//w3c//dtd html 3.2 draft//", "-//w3c//dtd html 3.2 final//", "-//w3c//dtd html 3.2//",
    "-//w3c//dtd html 3.2s draft//", "-//w3c//dtd html 4.0 frameset//",
    "-//w3c//dtd html 4.0 transitional//", "-//w3c//dtd html experimental 19960712//",
    "-//w3c//dtd html experimental 970421//", "-//w3c//dtd w3 html//", "-//w3o//dtd w3 html 3.0//",
    "-//webtechs//dtd mozilla html 2.0//", "-//webtechs//dtd mozilla html//"]

/-- Public identifiers of old document types. -/
def oldPublicIds : List String :=
  ["-//w3o//dtd w3 html strict 3.0//en//", "-/w3c/dtd html 4.0 transitional/en", "html"]

/-- Beginnings of public identifiers that are old without a system identifier. -/
def framePublicPrefixes : List String :=
  ["-//w3c//dtd html 4.01 frameset//", "-//w3c//dtd html 4.01 transitional//"]

/-- The text begins with one of the given ones, whatever the letter case. -/
def beginsWithAny (beginnings : List String) (s : String) : Bool :=
  beginnings.any fun p => Text.startsWith p.toList (s.toList.map Text.lowerAscii)

/-- The declaration asks for the layout mode of old, in which a table does not
end a paragraph. -/
def Doctype.isOld (d : Doctype) : Bool :=
  d.forceQuirks || d.name != some "html" ||
    (match d.publicId with
      | some id =>
        oldPublicIds.contains (Text.toLowerAscii id) || beginsWithAny oldPublicPrefixes id ||
          (d.systemId.isNone && beginsWithAny framePublicPrefixes id)
      | none => false) ||
    (match d.systemId with
      | some id =>
        Text.toLowerAscii id == "http://www.ibm.com/data/dtd/v11/ibmxhtml1-transitional.dtd"
      | none => false)

end Folio.Markup
