import Folio.Markup.Insertion

/-!
# Folio.Markup.Parser

From markup to trees.  `parseDocument` reads a whole page and always finds an
`html` element with a head and a body (or a frameset) in it; `parseFragment`
reads markup as it would stand in a body.  Nothing is refused.
-/

namespace Folio.Markup

open Construction

/-- Read a token in the present mode, and again as long as the modes ask for
it; `false` ends the construction.  `fuel` bounds the repetitions. -/
def dispatch (token : Token) : Nat → Option Mode → Build Bool
  | 0, _ => return true
  | fuel + 1, rules => do
    let c ← get
    let outcome ← match rules with
      | some mode => handle mode token
      | none => if isForeign c token then foreignMode token else handle c.mode token
    match outcome with
    | .used =>
      modify fun c => { c with fostering := false }
      return true
    | .again =>
      modify fun c => { c with fostering := false }
      dispatch token fuel none
    | .byRulesOf mode => dispatch token fuel (some mode)
    | .stop => return false

/-- A declaration counts only before everything else. -/
def declare (d : Doctype) : Build Unit := do
  if (← get).mode == .initial then
    append 0 (← newNode (.doctype (d.name.getD "")))
    modify fun c => { c with oldLayout := d.isOld, mode := .beforeHtml }

/-- Read one token. -/
def accept (token : Token) : Build Bool := do
  let drop := (← get).dropLineFeed
  modify fun c => { c with dropLineFeed := false }
  let fuel := 64 + 8 * (← get).openElements.size
  match token with
  | .nothing =>
    modify fun c => { c with dropLineFeed := drop }
    return true
  | .doctype d =>
    declare d
    return true
  | .characters blank run =>
    let run := if drop && run.startsWith "\n" then String.ofList (run.toList.drop 1) else run
    if run.isEmpty then return true
    dispatch (.characters (blank || run.toList.all Text.isAsciiBlank) run) fuel none
  | token => dispatch token fuel none

/-- Content is text only as long as its mode lasts. -/
def settleContent : Build Unit :=
  modify fun c =>
    if c.content != .plain && c.mode != .text then { c with content := .data } else c

/-- Read the tokens of a text; `fuel` bounds their number. -/
def readAll (s : List Char) : Nat → Build Unit
  | 0 => return
  | fuel + 1 => do
    let c ← get
    let sections := !c.openElements.isEmpty && c.adjustedName.1 != .html
    let (token, rest) := nextToken c.content sections s
    let goOn ← accept token
    settleContent
    if goOn && token != .done then readAll rest fuel

/-- The tree of a whole page. -/
def parseDocument (page : String) : Node :=
  let s := normalizedInput page.toList
  ((readAll s (s.length + 2)).run (Construction.start .document none)).2.tree

/-- A construction that reads markup as it would stand in a body. -/
def fragmentStart : Construction :=
  let c := ((openRoot (impliedTag "html")).run
    (Construction.start .fragment (some ⟨.html, "body", []⟩))).2
  { c with mode := .inBody }

/-- The tree of markup that stands in a body: a fragment that holds an `html`
element, which holds the content. -/
def parseFragment (markup : String) : Node :=
  let s := normalizedInput markup.toList
  ((readAll s (s.length + 2)).run fragmentStart).2.tree

end Folio.Markup
