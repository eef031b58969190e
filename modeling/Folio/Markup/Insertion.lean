import Folio.Markup.Construction

/-!
# Folio.Markup.Insertion

What a token means in each mode of the construction.  A handler changes the
construction and says whether the token is used up, has to be read again in
the mode the handler has entered, or is to be read by the rules of another
mode.
-/

namespace Folio.Markup

open Construction

/-- What becomes of a token after a handler. -/
inductive Outcome where
  | used
  | again
  | byRulesOf (mode : Mode)
  | stop

/-- Enter a mode and read the token again. -/
def againIn (mode : Mode) : Build Outcome := do
  enter mode
  return .again

/-- A character reference to a hidden field: an input element of that type. -/
def isHidden (t : RawTag) : Bool :=
  match t.attributes.lookup "type" with
  | some value => Text.toLowerAscii value == "hidden"
  | none => false

/-- Read the token by the rules for the body, where content that has no place
in a table goes before it. -/
def fosterInBody : Build Outcome := do
  modify fun c => { c with fostering := true }
  return .byRulesOf .inBody

/-! ## Before the body -/

/-- Put a comment at the end of the document. -/
def commentInDocument (content : String) : Build Unit := do
  append 0 (← newNode (.comment content))

/-- Open the root element. -/
def openRoot (t : RawTag) : Build Unit := do
  let id ← newElement (t.inVocabulary .html)
  append 0 id
  push id

/-- Before anything but a declaration. -/
def initialMode (token : Token) : Build Outcome := do
  match token with
  | .characters true _ => return .used
  | .comment content =>
    commentInDocument content
    return .used
  | _ =>
    modify fun c => { c with oldLayout := true }
    againIn .beforeHtml

/-- Before the root element. -/
def beforeHtmlMode (token : Token) : Build Outcome := do
  match token with
  | .characters true _ => return .used
  | .comment content =>
    commentInDocument content
    return .used
  | .startTag t =>
    if t.name = "html" then
      openRoot t
      enter .beforeHead
      return .used
    openRoot (impliedTag "html")
    againIn .beforeHead
  | .endTag name =>
    if ["head", "body", "html", "br"].contains name then
      openRoot (impliedTag "html")
      againIn .beforeHead
    else return .used
  | _ =>
    openRoot (impliedTag "html")
    againIn .beforeHead

/-- Open the head. -/
def openHead (t : RawTag) : Build Unit := do
  let id ← insertElement .html t
  modify fun c => { c with head := some id }

/-- Before the head. -/
def beforeHeadMode (token : Token) : Build Outcome := do
  match token with
  | .characters true _ => return .used
  | .comment content =>
    insertComment content
    return .used
  | .startTag t =>
    if t.name = "html" then return .byRulesOf .inBody
    if t.name = "head" then
      openHead t
      enter .inHead
      return .used
    openHead (impliedTag "head")
    againIn .inHead
  | .endTag name =>
    if ["head", "body", "html", "br"].contains name then
      openHead (impliedTag "head")
      againIn .inHead
    else return .used
  | _ =>
    openHead (impliedTag "head")
    againIn .inHead

/-- Close the template that is open. -/
def closeTemplate : Build Unit := do
  if (← get).inTemplate then
    closeImplied endsWithTemplate
    popUntilNamed "template"
    clearToMarker
    modify fun c => { c with templateModes := c.templateModes.drop 1 }
    modify fun c => { c with mode := c.resetMode }

/-- Within the head. -/
def inHeadMode (token : Token) : Build Outcome := do
  match token with
  | .characters true run =>
    insertText run
    return .used
  | .comment content =>
    insertComment content
    return .used
  | .startTag t =>
    match t.name with
    | "html" => return .byRulesOf .inBody
    | "base" | "basefont" | "bgsound" | "link" | "meta" =>
      insertClosed t
      return .used
    | "title" =>
      enterText t (.escapable t.name)
      return .used
    | "noframes" | "style" | "noscript" =>
      enterText t (.raw t.name)
      return .used
    | "script" =>
      enterText t .script
      return .used
    | "template" =>
      insertOpen t
      pushMarker
      forbidFrames
      modify fun c => { c with
        mode := .inTemplate, templateModes := .inTemplate :: c.templateModes }
      return .used
    | "head" => return .used
    | _ =>
      pop
      againIn .afterHead
  | .endTag name =>
    match name with
    | "head" =>
      pop
      enter .afterHead
      return .used
    | "body" | "html" | "br" =>
      pop
      againIn .afterHead
    | "template" =>
      closeTemplate
      return .used
    | _ => return .used
  | _ =>
    pop
    againIn .afterHead

/-- Open the body whose start tag was left out, and read the token there. -/
def impliedBody : Build Outcome := do
  insertImplied "body"
  againIn .inBody

/-- Read a token by the rules for the head, which is open meanwhile. -/
def withinHead (token : Token) : Build Outcome := do
  match (← get).head with
  | none => return .used
  | some head =>
    push head
    let outcome ← inHeadMode token
    unopen head
    return outcome

/-- After the head. -/
def afterHeadMode (token : Token) : Build Outcome := do
  match token with
  | .characters true run =>
    insertText run
    return .used
  | .comment content =>
    insertComment content
    return .used
  | .startTag t =>
    match t.name with
    | "html" => return .byRulesOf .inBody
    | "body" =>
      insertOpen t
      forbidFrames
      enter .inBody
      return .used
    | "frameset" =>
      insertOpen t
      enter .inFrameset
      return .used
    | "base" | "basefont" | "bgsound" | "link" | "meta" | "noframes" | "script" | "style"
    | "template" | "title" => withinHead token
    | "head" => return .used
    | _ => impliedBody
  | .endTag name =>
    match name with
    | "template" => return .byRulesOf .inHead
    | "body" | "html" | "br" => impliedBody
    | _ => return .used
  | _ => impliedBody

/-! ## The body -/

/-- Begin vector graphics or a formula. -/
def insertForeign (v : Vocabulary) (t : RawTag) : Build Unit := do
  let _ ← insertElement v t
  if t.selfClosing then pop

/-- Start tags that close an open paragraph and begin a block. -/
def blockTags : List String :=
  ["address", "article", "aside", "blockquote", "center", "details", "dialog", "dir", "div",
    "dl", "fieldset", "figcaption", "figure", "footer", "header", "hgroup", "main", "menu",
    "nav", "ol", "p", "search", "section", "summary", "ul"]

/-- End tags that close the block of their name. -/
def blockEndTags : List String :=
  ["address", "article", "aside", "blockquote", "button", "center", "details", "dialog",
    "dir", "div", "dl", "fieldset", "figcaption", "figure", "footer", "header", "hgroup",
    "listing", "main", "menu", "nav", "ol", "pre", "search", "section", "summary", "ul"]

/-- Formatting elements other than links. -/
def formattingTags : List String :=
  ["b", "big", "code", "em", "font", "i", "s", "small", "strike", "strong", "tt", "u"]

/-- Close the list item or definition that is open before another begins. -/
def closeOpenItem (names : List String) : Build Unit := do
  let c ← get
  let stack := c.openElements.toList.reverse
  let reached := stack.find? fun id => isOneOf names (c.name id) || boundsItem (c.name id)
  match reached with
  | none => return
  | some id =>
    if isOneOf names (c.name id) then
      closeImpliedExcept (c.name id).2
      popUntilNamed (c.name id).2

/-- Close an element of the given name with what it holds, if one is in
scope. -/
def closeInScope (bounds : ElementName → Bool) (name : String) : Build Unit := do
  if (← get).namedInScope bounds name then
    closeImplied endsByItself
    popUntilNamed name

/-- A start tag within the body. -/
def bodyStartTag (t : RawTag) : Build Outcome := do
  let c ← get
  match t.name with
  | "html" =>
    if !c.inTemplate then addMissingAttributes (c.openElements[0]?.getD 0) t
    return .used
  | "base" | "basefont" | "bgsound" | "link" | "meta" | "noframes" | "script" | "style"
  | "template" | "title" => return .byRulesOf .inHead
  | "body" =>
    match c.openElements[1]? with
    | some id =>
      if c.name id == (.html, "body") && !c.inTemplate then
        forbidFrames
        addMissingAttributes id t
    | none => pure ()
    return .used
  | "frameset" =>
    match c.openElements[1]? with
    | some id =>
      if c.framesAllowed && c.name id == (.html, "body") then
        detach id
        modify fun c => { c with openElements := c.openElements.extract 0 1 }
        insertOpen t
        enter .inFrameset
    | none => pure ()
    return .used
  | "h1" | "h2" | "h3" | "h4" | "h5" | "h6" =>
    closeOpenParagraph
    if isOneOf headings (← get).currentName then pop
    insertOpen t
    return .used
  | "pre" | "listing" =>
    closeOpenParagraph
    insertOpen t
    modify fun c => { c with dropLineFeed := true, framesAllowed := false }
    return .used
  | "form" =>
    if c.form.isSome && !c.inTemplate then return .used
    closeOpenParagraph
    let id ← insertElement .html t
    if !(← get).inTemplate then modify fun c => { c with form := some id }
    return .used
  | "li" =>
    forbidFrames
    closeOpenItem ["li"]
    closeOpenParagraph
    insertOpen t
    return .used
  | "dd" | "dt" =>
    forbidFrames
    closeOpenItem ["dd", "dt"]
    closeOpenParagraph
    insertOpen t
    return .used
  | "plaintext" =>
    closeOpenParagraph
    insertOpen t
    modify fun c => { c with content := .plain }
    return .used
  | "button" =>
    closeInScope boundsScope "button"
    reconstructFormatting
    insertOpen t
    forbidFrames
    return .used
  | "a" =>
    closeOpenLink
    reconstructFormatting
    insertFormatting t
    return .used
  | "nobr" =>
    reconstructFormatting
    if (← get).namedInScope boundsScope "nobr" then
      adopt "nobr"
      reconstructFormatting
    insertFormatting t
    return .used
  | "applet" | "marquee" | "object" =>
    reconstructFormatting
    insertOpen t
    pushMarker
    forbidFrames
    return .used
  | "table" =>
    if !c.oldLayout then closeOpenParagraph
    insertOpen t
    forbidFrames
    enter .inTable
    return .used
  | "area" | "br" | "embed" | "img" | "keygen" | "wbr" | "input" =>
    reconstructFormatting
    insertClosed t
    if !(t.name == "input" && isHidden t) then forbidFrames
    return .used
  | "param" | "source" | "track" =>
    insertClosed t
    return .used
  | "hr" =>
    closeOpenParagraph
    insertClosed t
    forbidFrames
    return .used
  | "image" =>
    reconstructFormatting
    insertClosed { t with name := "img" }
    forbidFrames
    return .used
  | "textarea" =>
    enterText t (.escapable t.name)
    modify fun c => { c with dropLineFeed := true, framesAllowed := false }
    return .used
  | "xmp" =>
    closeOpenParagraph
    reconstructFormatting
    forbidFrames
    enterText t (.raw t.name)
    return .used
  | "iframe" =>
    forbidFrames
    enterText t (.raw t.name)
    return .used
  | "noembed" | "noscript" =>
    enterText t (.raw t.name)
    return .used
  | "select" =>
    reconstructFormatting
    insertOpen t
    forbidFrames
    enter (if [Mode.inTable, .inCaption, .inTableBody, .inRow, .inCell].contains c.mode
      then .inSelectInTable else .inSelect)
    return .used
  | "optgroup" | "option" =>
    if c.currentName == (.html, "option") then pop
    reconstructFormatting
    insertOpen t
    return .used
  | "rb" | "rtc" =>
    if c.namedInScope boundsScope "ruby" then closeImplied endsByItself
    insertOpen t
    return .used
  | "rp" | "rt" =>
    if c.namedInScope boundsScope "ruby" then closeImpliedExcept "rtc"
    insertOpen t
    return .used
  | "math" =>
    reconstructFormatting
    insertForeign .math t
    return .used
  | "svg" =>
    reconstructFormatting
    insertForeign .svg t
    return .used
  | "caption" | "col" | "colgroup" | "frame" | "head" | "tbody" | "td" | "tfoot" | "th"
  | "thead" | "tr" => return .used
  | name =>
    if blockTags.contains name then
      closeOpenParagraph
      insertOpen t
    else if formattingTags.contains name then
      reconstructFormatting
      insertFormatting t
    else
      reconstructFormatting
      insertOpen t
    return .used

/-- The end tag of a form. -/
def closeForm : Build Unit := do
  let c ← get
  if c.inTemplate then
    closeInScope boundsScope "form"
  else
    set { c with form := none }
    match c.form with
    | none => return
    | some id =>
      if c.hasInScope boundsScope (· == id) then
        closeImplied endsByItself
        unopen id

/-- An end tag within the body. -/
def bodyEndTag (name : String) : Build Outcome := do
  let c ← get
  match name with
  | "template" => return .byRulesOf .inHead
  | "body" =>
    if c.namedInScope boundsScope "body" then enter .afterBody
    return .used
  | "html" =>
    if c.namedInScope boundsScope "body" then againIn .afterBody else return .used
  | "form" =>
    closeForm
    return .used
  | "p" =>
    if !c.namedInScope boundsButtonScope "p" then insertImplied "p"
    closeParagraph
    return .used
  | "li" =>
    if c.namedInScope boundsListScope "li" then
      closeImpliedExcept "li"
      popUntilNamed "li"
    return .used
  | "dd" | "dt" =>
    if c.namedInScope boundsScope name then
      closeImpliedExcept name
      popUntilNamed name
    return .used
  | "h1" | "h2" | "h3" | "h4" | "h5" | "h6" =>
    if c.hasInScope boundsScope fun id => isOneOf headings (c.name id) then
      closeImplied endsByItself
      popUntil (isOneOf headings)
    return .used
  | "applet" | "marquee" | "object" =>
    if c.namedInScope boundsScope name then
      closeInScope boundsScope name
      clearToMarker
    return .used
  | "br" =>
    reconstructFormatting
    insertClosed (impliedTag "br")
    forbidFrames
    return .used
  | name =>
    if blockEndTags.contains name then closeInScope boundsScope name
    else if formattingTags.contains name || name == "a" || name == "nobr" then adopt name
    else closeOrdinary name
    return .used

/-- Within the body. -/
def inBodyMode (token : Token) : Build Outcome := do
  match token with
  | .characters blank run =>
    reconstructFormatting
    if !blank then forbidFrames
    insertText run
    return .used
  | .comment content =>
    insertComment content
    return .used
  | .startTag t => bodyStartTag t
  | .endTag name => bodyEndTag name
  | .done =>
    if (← get).templateModes.isEmpty then return .stop else return .byRulesOf .inTemplate
  | _ => return .used

/-- Within text that is read up to its end tag. -/
def textMode (token : Token) : Build Outcome := do
  match token with
  | .characters _ run =>
    insertText run
    return .used
  | .endTag _ =>
    pop
    modify fun c => { c with mode := c.returnMode }
    return .used
  | .done =>
    pop
    againIn (← get).returnMode
  | _ => return .used

/-! ## Tables -/

/-- Elements between which characters of a table stand. -/
def tableParts : List String := ["table", "tbody", "tfoot", "thead", "tr"]

/-- Characters between the parts of a table. -/
def charactersInTable : Build Outcome := do
  if isOneOf tableParts (← get).currentName then
    modify fun c => { c with returnMode := c.mode }
    againIn .inTableText
  else fosterInBody

/-- Within a table. -/
def inTableMode (token : Token) : Build Outcome := do
  let c ← get
  match token with
  | .characters _ _ | .null => charactersInTable
  | .comment content =>
    insertComment content
    return .used
  | .startTag t =>
    match t.name with
    | "caption" =>
      popUntilCurrent boundsTableScope
      pushMarker
      insertOpen t
      enter .inCaption
      return .used
    | "colgroup" =>
      popUntilCurrent boundsTableScope
      insertOpen t
      enter .inColumnGroup
      return .used
    | "col" =>
      popUntilCurrent boundsTableScope
      insertImplied "colgroup"
      againIn .inColumnGroup
    | "tbody" | "tfoot" | "thead" =>
      popUntilCurrent boundsTableScope
      insertOpen t
      enter .inTableBody
      return .used
    | "td" | "th" | "tr" =>
      popUntilCurrent boundsTableScope
      insertImplied "tbody"
      againIn .inTableBody
    | "table" =>
      if c.namedInScope boundsTableScope "table" then
        popUntilNamed "table"
        againIn (← get).resetMode
      else return .used
    | "style" | "script" | "template" => return .byRulesOf .inHead
    | "input" =>
      if isHidden t then
        insertClosed t
        return .used
      else fosterInBody
    | "form" =>
      if !c.inTemplate && c.form.isNone then
        let id ← insertElement .html t
        pop
        modify fun c => { c with form := some id }
      return .used
    | _ => fosterInBody
  | .endTag name =>
    match name with
    | "table" =>
      if c.namedInScope boundsTableScope "table" then
        popUntilNamed "table"
        enter (← get).resetMode
      return .used
    | "body" | "caption" | "col" | "colgroup" | "html" | "tbody" | "td" | "tfoot" | "th"
    | "thead" | "tr" => return .used
    | "template" => return .byRulesOf .inHead
    | _ => fosterInBody
  | .done => return .byRulesOf .inBody
  | _ => fosterInBody

/-- Put characters of a table before it, as content of the body. -/
def fosterText (blank : Bool) (run : String) : Build Unit := do
  modify fun c => { c with fostering := true }
  reconstructFormatting
  if !blank then forbidFrames
  insertText run
  modify fun c => { c with fostering := false }

/-- Within characters of a table. -/
def inTableTextMode (token : Token) : Build Outcome := do
  match token with
  | .null => return .used
  | .characters blank run =>
    modify fun c => { c with tableText := (blank, run) :: c.tableText }
    return .used
  | _ =>
    let runs := (← get).tableText.reverse
    modify fun c => { c with tableText := [] }
    if runs.all (·.1) then
      for (_, run) in runs do insertText run
    else
      for (blank, run) in runs do fosterText blank run
    againIn (← get).returnMode

/-- Parts of a table that end a caption or a cell. -/
def partTags : List String :=
  ["caption", "col", "colgroup", "tbody", "td", "tfoot", "th", "thead", "tr"]

/-- Close the caption, if it is open; tells whether it was. -/
def closeCaption : Build Bool := do
  if (← get).namedInScope boundsTableScope "caption" then
    closeInScope boundsTableScope "caption"
    clearToMarker
    enter .inTable
    return true
  else return false

/-- Within the caption of a table. -/
def inCaptionMode (token : Token) : Build Outcome := do
  match token with
  | .startTag t =>
    if partTags.contains t.name then
      if ← closeCaption then return .again else return .used
    else return .byRulesOf .inBody
  | .endTag name =>
    match name with
    | "table" => if ← closeCaption then return .again else return .used
    | "caption" =>
      let _ ← closeCaption
      return .used
    | "body" | "col" | "colgroup" | "html" | "tbody" | "td" | "tfoot" | "th" | "thead"
    | "tr" => return .used
    | _ => return .byRulesOf .inBody
  | _ => return .byRulesOf .inBody

/-- Leave the columns of a table and read the token after them. -/
def leaveColumns : Build Outcome := do
  if (← get).currentName == (.html, "colgroup") then
    pop
    againIn .inTable
  else return .used

/-- Within the columns of a table. -/
def inColumnGroupMode (token : Token) : Build Outcome := do
  match token with
  | .characters true run =>
    insertText run
    return .used
  | .comment content =>
    insertComment content
    return .used
  | .startTag t =>
    match t.name with
    | "html" => return .byRulesOf .inBody
    | "col" =>
      insertClosed t
      return .used
    | "template" => return .byRulesOf .inHead
    | _ => leaveColumns
  | .endTag name =>
    match name with
    | "colgroup" =>
      if (← get).currentName == (.html, "colgroup") then
        pop
        enter .inTable
      return .used
    | "col" => return .used
    | "template" => return .byRulesOf .inHead
    | _ => leaveColumns
  | .done => return .byRulesOf .inBody
  | _ => leaveColumns

/-- Elements that hold the rows of a table. -/
def holdsRows (n : ElementName) : Bool := isOneOf ["tbody", "tfoot", "thead", "template", "html"] n

/-- Elements that hold the cells of a table. -/
def holdsCells (n : ElementName) : Bool := isOneOf ["tr", "template", "html"] n

/-- Leave the rows of a table and read the token after them. -/
def leaveRows : Build Outcome := do
  let c ← get
  if c.hasInScope boundsTableScope fun id => isOneOf ["table", "tbody", "tfoot"] (c.name id) then
    popUntilCurrent holdsRows
    pop
    againIn .inTable
  else return .used

/-- Within the rows of a table. -/
def inTableBodyMode (token : Token) : Build Outcome := do
  match token with
  | .startTag t =>
    match t.name with
    | "tr" =>
      popUntilCurrent holdsRows
      insertOpen t
      enter .inRow
      return .used
    | "th" | "td" =>
      popUntilCurrent holdsRows
      insertImplied "tr"
      againIn .inRow
    | "caption" | "col" | "colgroup" | "tbody" | "tfoot" | "thead" => leaveRows
    | _ => return .byRulesOf .inTable
  | .endTag name =>
    match name with
    | "tbody" | "tfoot" | "thead" =>
      if (← get).namedInScope boundsTableScope name then
        popUntilCurrent holdsRows
        pop
        enter .inTable
      return .used
    | "table" => leaveRows
    | "body" | "caption" | "col" | "colgroup" | "html" | "td" | "th" | "tr" => return .used
    | _ => return .byRulesOf .inTable
  | _ => return .byRulesOf .inTable

/-- Close the row that is open; tells whether one was. -/
def closeRow : Build Bool := do
  if (← get).namedInScope boundsTableScope "tr" then
    popUntilCurrent holdsCells
    pop
    enter .inTableBody
    return true
  else return false

/-- Within a row. -/
def inRowMode (token : Token) : Build Outcome := do
  match token with
  | .startTag t =>
    match t.name with
    | "th" | "td" =>
      popUntilCurrent holdsCells
      insertOpen t
      enter .inCell
      pushMarker
      return .used
    | "caption" | "col" | "colgroup" | "tbody" | "tfoot" | "thead" | "tr" =>
      if ← closeRow then return .again else return .used
    | _ => return .byRulesOf .inTable
  | .endTag name =>
    match name with
    | "tr" =>
      let _ ← closeRow
      return .used
    | "table" => if ← closeRow then return .again else return .used
    | "tbody" | "tfoot" | "thead" =>
      if (← get).namedInScope boundsTableScope name then
        if ← closeRow then return .again else return .used
      else return .used
    | "body" | "caption" | "col" | "colgroup" | "html" | "td" | "th" => return .used
    | _ => return .byRulesOf .inTable
  | _ => return .byRulesOf .inTable

/-- Close the cell that is open and read the token in its row. -/
def leaveCell : Build Outcome := do
  closeImplied endsByItself
  popUntil (isOneOf ["td", "th"])
  clearToMarker
  againIn .inRow

/-- Within a cell. -/
def inCellMode (token : Token) : Build Outcome := do
  let c ← get
  match token with
  | .startTag t =>
    if partTags.contains t.name then
      if c.hasInScope boundsTableScope fun id => isOneOf ["td", "th"] (c.name id) then leaveCell
      else return .used
    else return .byRulesOf .inBody
  | .endTag name =>
    match name with
    | "td" | "th" =>
      if c.namedInScope boundsTableScope name then
        closeInScope boundsTableScope name
        clearToMarker
        enter .inRow
      return .used
    | "body" | "caption" | "col" | "colgroup" | "html" => return .used
    | "table" | "tbody" | "tfoot" | "thead" | "tr" =>
      if c.namedInScope boundsTableScope name then leaveCell else return .used
    | _ => return .byRulesOf .inBody
  | _ => return .byRulesOf .inBody

/-! ## Selection lists -/

/-- Close the element of the given name when it is the innermost. -/
def popNamed (name : String) : Build Unit := do
  if (← get).currentName == (.html, name) then pop

/-- Close the selection list and read the token after it. -/
def leaveSelect : Build Outcome := do
  popUntilNamed "select"
  againIn (← get).resetMode

/-- Within a selection list. -/
def inSelectMode (token : Token) : Build Outcome := do
  let c ← get
  let open' := c.namedInScope boundsSelectScope "select"
  match token with
  | .characters _ run =>
    insertText run
    return .used
  | .comment content =>
    insertComment content
    return .used
  | .startTag t =>
    match t.name with
    | "html" => return .byRulesOf .inBody
    | "option" =>
      popNamed "option"
      insertOpen t
      return .used
    | "optgroup" =>
      popNamed "option"
      popNamed "optgroup"
      insertOpen t
      return .used
    | "hr" =>
      popNamed "option"
      popNamed "optgroup"
      insertClosed t
      return .used
    | "select" =>
      if open' then
        popUntilNamed "select"
        enter (← get).resetMode
      return .used
    | "input" | "keygen" | "textarea" => if open' then leaveSelect else return .used
    | "script" | "template" => return .byRulesOf .inHead
    | _ => return .used
  | .endTag name =>
    match name with
    | "optgroup" =>
      let outer := c.openElements[c.openElements.size - 2]?.getD 0
      if c.currentName == (.html, "option") && c.name outer == (.html, "optgroup") then pop
      popNamed "optgroup"
      return .used
    | "option" =>
      popNamed "option"
      return .used
    | "select" =>
      if open' then
        popUntilNamed "select"
        enter (← get).resetMode
      return .used
    | "template" => return .byRulesOf .inHead
    | _ => return .used
  | .done => return .byRulesOf .inBody
  | _ => return .used

/-- Within a selection list in a table. -/
def inSelectInTableMode (token : Token) : Build Outcome := do
  let parts := ["caption", "table", "tbody", "tfoot", "thead", "tr", "td", "th"]
  match token with
  | .startTag t =>
    if parts.contains t.name then leaveSelect else return .byRulesOf .inSelect
  | .endTag name =>
    if parts.contains name then
      if (← get).namedInScope boundsTableScope name then leaveSelect else return .used
    else return .byRulesOf .inSelect
  | _ => return .byRulesOf .inSelect

/-! ## Templates, frames and the end -/

/-- Read the rest of a template in another mode. -/
def templateIn (mode : Mode) : Build Outcome := do
  modify fun c => { c with templateModes := mode :: c.templateModes.drop 1 }
  againIn mode

/-- Within a template. -/
def inTemplateMode (token : Token) : Build Outcome := do
  match token with
  | .characters _ _ | .comment _ => return .byRulesOf .inBody
  | .startTag t =>
    match t.name with
    | "base" | "basefont" | "bgsound" | "link" | "meta" | "noframes" | "script" | "style"
    | "template" | "title" => return .byRulesOf .inHead
    | "caption" | "colgroup" | "tbody" | "tfoot" | "thead" => templateIn .inTable
    | "col" => templateIn .inColumnGroup
    | "tr" => templateIn .inTableBody
    | "td" | "th" => templateIn .inRow
    | _ => templateIn .inBody
  | .endTag name => return if name == "template" then .byRulesOf .inHead else .used
  | .done =>
    if (← get).inTemplate then
      popUntilNamed "template"
      clearToMarker
      modify fun c => { c with templateModes := c.templateModes.drop 1 }
      againIn (← get).resetMode
    else return .stop
  | _ => return .used

/-- After the body. -/
def afterBodyMode (token : Token) : Build Outcome := do
  let c ← get
  match token with
  | .characters true _ => return .byRulesOf .inBody
  | .comment content =>
    append (c.openElements[0]?.getD 0) (← newNode (.comment content))
    return .used
  | .startTag t => if t.name = "html" then return .byRulesOf .inBody else againIn .inBody
  | .endTag name =>
    if name = "html" then
      if c.context.isNone then enter .afterAfterBody
      return .used
    else againIn .inBody
  | .done => return .stop
  | _ => againIn .inBody

/-- Within a frameset. -/
def inFramesetMode (token : Token) : Build Outcome := do
  match token with
  | .characters true run =>
    insertText run
    return .used
  | .comment content =>
    insertComment content
    return .used
  | .startTag t =>
    match t.name with
    | "html" => return .byRulesOf .inBody
    | "frameset" =>
      insertOpen t
      return .used
    | "frame" =>
      insertClosed t
      return .used
    | "noframes" => return .byRulesOf .inHead
    | _ => return .used
  | .endTag name =>
    if name = "frameset" ∧ 1 < (← get).openElements.size then
      pop
      if (← get).context.isNone && (← get).currentName != (.html, "frameset") then
        enter .afterFrameset
    return .used
  | .done => return .stop
  | _ => return .used

/-- After a frameset. -/
def afterFramesetMode (token : Token) : Build Outcome := do
  match token with
  | .characters true run =>
    insertText run
    return .used
  | .comment content =>
    insertComment content
    return .used
  | .startTag t =>
    match t.name with
    | "html" => return .byRulesOf .inBody
    | "noframes" => return .byRulesOf .inHead
    | _ => return .used
  | .endTag name =>
    if name = "html" then enter .afterAfterFrameset
    return .used
  | .done => return .stop
  | _ => return .used

/-- After everything that belongs to the body. -/
def afterAfterBodyMode (token : Token) : Build Outcome := do
  match token with
  | .characters true _ => return .byRulesOf .inBody
  | .comment content =>
    commentInDocument content
    return .used
  | .startTag t => if t.name = "html" then return .byRulesOf .inBody else againIn .inBody
  | .done => return .stop
  | _ => againIn .inBody

/-- After everything that belongs to a frameset. -/
def afterAfterFramesetMode (token : Token) : Build Outcome := do
  match token with
  | .characters true _ => return .byRulesOf .inBody
  | .comment content =>
    commentInDocument content
    return .used
  | .startTag t =>
    match t.name with
    | "html" => return .byRulesOf .inBody
    | "noframes" => return .byRulesOf .inHead
    | _ => return .used
  | .done => return .stop
  | _ => return .used

/-- What a token means in a mode. -/
def handle (mode : Mode) (token : Token) : Build Outcome :=
  match mode with
  | .initial => initialMode token
  | .beforeHtml => beforeHtmlMode token
  | .beforeHead => beforeHeadMode token
  | .inHead => inHeadMode token
  | .afterHead => afterHeadMode token
  | .inBody => inBodyMode token
  | .text => textMode token
  | .inTable => inTableMode token
  | .inTableText => inTableTextMode token
  | .inCaption => inCaptionMode token
  | .inColumnGroup => inColumnGroupMode token
  | .inTableBody => inTableBodyMode token
  | .inRow => inRowMode token
  | .inCell => inCellMode token
  | .inSelect => inSelectMode token
  | .inSelectInTable => inSelectInTableMode token
  | .inTemplate => inTemplateMode token
  | .afterBody => afterBodyMode token
  | .inFrameset => inFramesetMode token
  | .afterFrameset => afterFramesetMode token
  | .afterAfterBody => afterAfterBodyMode token
  | .afterAfterFrameset => afterAfterFramesetMode token

/-! ## Vector graphics and formulas -/

/-- The token is read by the rules for vector graphics and formulas. -/
def isForeign (c : Construction) (token : Token) : Bool :=
  if c.openElements.isEmpty then false
  else
    let name := c.adjustedName
    if name.1 == .html then false
    else
      match token with
      | .done => false
      | .characters _ _ | .null => !(isMathText name || isGraphicsIntegration name)
      | .startTag t =>
        !((isMathText name && t.name != "mglyph" && t.name != "malignmark") ||
          isGraphicsIntegration name ||
          (name == (.math, "annotation-xml") && t.name == "svg"))
      | _ => true

/-- A start tag that ends vector graphics or a formula. -/
def leaveForeign : Build Outcome := do
  popUntilCurrent fun n => n.1 == .html || isMathText n || isGraphicsIntegration n
  return .byRulesOf (← get).mode

/-- The end tag of an element of vector graphics or a formula. -/
def foreignEndTag (name : String) : Build Outcome := do
  let c ← get
  go c true c.openElements.toList.reverse
where
  /-- The search, from the innermost element outwards. -/
  go (c : Construction) (first : Bool) : List Nat → Build Outcome
    | [] => return .used
    | [_] => return .used
    | id :: rest => do
      let n := c.name id
      if !first && n.1 == .html then return .byRulesOf c.mode
      else if Text.toLowerAscii n.2 == name then
        modify fun c => { c with openElements := rest.reverse.toArray }
        return .used
      else go c false rest

/-- What a token means within vector graphics and formulas. -/
def foreignMode (token : Token) : Build Outcome := do
  match token with
  | .null =>
    insertText (String.ofList [replacement])
    return .used
  | .characters blank run =>
    if !blank then forbidFrames
    insertText run
    return .used
  | .comment content =>
    insertComment content
    return .used
  | .startTag t =>
    let colored := t.attributes.any fun (name, _) => ["color", "face", "size"].contains name
    if endsForeign.contains t.name || (t.name == "font" && colored) then leaveForeign
    else
      insertForeign (← get).adjustedName.1 t
      return .used
  | .endTag name =>
    if name = "br" ∨ name = "p" then leaveForeign else foreignEndTag name
  | _ => return .used

end Folio.Markup
