import Folio.Markup.Elements

/-!
# Folio.Markup.Construction

A markup tree under construction.  Nodes are numbered; each knows its parent
and its children.  Beside the nodes stand the elements that are open, the
formatting elements that have to be opened anew where a block cut them off,
and what the insertion modes remember.  `Construction.tree` is the finished
tree.
-/

namespace Folio.Markup

/-! ## Numbered nodes -/

/-- What a numbered node is. -/
inductive Cell where
  | document
  | fragment
  | element (tag : Tag)
  | text (content : String)
  | comment (content : String)
  | doctype (name : String)
deriving Inhabited

/-- A node with its place among the others. -/
structure Slot where
  cell : Cell
  parent : Option Nat
  children : Array Nat
deriving Inhabited

/-! ## State -/

/-- The stages of a document, which decide what a token means. -/
inductive Mode where
  | initial
  | beforeHtml
  | beforeHead
  | inHead
  | afterHead
  | inBody
  | text
  | inTable
  | inTableText
  | inCaption
  | inColumnGroup
  | inTableBody
  | inRow
  | inCell
  | inSelect
  | inSelectInTable
  | inTemplate
  | afterBody
  | inFrameset
  | afterFrameset
  | afterAfterBody
  | afterAfterFrameset
deriving DecidableEq, Repr, Inhabited

/-- An entry of the list of formatting elements. -/
inductive Formatting where
  | marker
  | element (id : Nat) (tag : RawTag)
deriving Inhabited

/-- A tree under construction. -/
structure Construction where
  slots : Array Slot
  mode : Mode
  /-- The mode to return to after text. -/
  returnMode : Mode
  templateModes : List Mode
  /-- The open elements, the innermost last. -/
  openElements : Array Nat
  /-- The formatting elements, the latest last. -/
  formatting : Array Formatting
  /-- Characters met between the parts of a table. -/
  tableText : List (Bool × String)
  head : Option Nat
  form : Option Nat
  /-- The element whose content is built, when it is not a whole document. -/
  context : Option Tag
  framesAllowed : Bool
  /-- A line feed that comes next is dropped. -/
  dropLineFeed : Bool
  /-- Content that has no place in a table goes before it. -/
  fostering : Bool
  /-- The document uses the layout mode of old. -/
  oldLayout : Bool
  /-- How the content that follows is read. -/
  content : ContentMode
deriving Inhabited

/-- A step of the construction. -/
abbrev Build := StateM Construction

namespace Construction

/-- The tag of a node, when it is an element. -/
def tag? (c : Construction) (id : Nat) : Option Tag :=
  match c.slots[id]? with
  | some ⟨.element tag, _, _⟩ => some tag
  | _ => none

/-- The name of an element. -/
def name (c : Construction) (id : Nat) : ElementName :=
  match c.tag? id with
  | some tag => (tag.vocabulary, tag.name)
  | none => (.html, "")

/-- The innermost open element. -/
def current (c : Construction) : Nat := c.openElements.back?.getD 0

/-- The name of the innermost open element. -/
def currentName (c : Construction) : ElementName := c.name c.current

/-- The name that decides whether content is ordinary markup. -/
def adjustedName (c : Construction) : ElementName :=
  match c.openElements.size, c.context with
  | 1, some tag => (tag.vocabulary, tag.name)
  | _, _ => c.currentName

/-- Some open element is a template. -/
def inTemplate (c : Construction) : Bool :=
  c.openElements.any fun id => c.name id == (.html, "template")

/-- An element that satisfies `p` is open, and none between it and the
innermost satisfies `bounds`. -/
def hasInScope (c : Construction) (bounds : ElementName → Bool) (p : Nat → Bool) : Bool :=
  go c.openElements.toList.reverse
where
  /-- The search, from the innermost element outwards. -/
  go : List Nat → Bool
    | [] => false
    | id :: rest => if p id then true else if bounds (c.name id) then false else go rest

/-- An ordinary element of the given name is in scope. -/
def namedInScope (c : Construction) (bounds : ElementName → Bool) (name : String) : Bool :=
  c.hasInScope bounds fun id => c.name id == (.html, name)

/-! ## Nodes -/

/-- Change a slot. -/
def modifySlot (id : Nat) (f : Slot → Slot) : Build Unit :=
  modify fun c => { c with slots := c.slots.modify id f }

/-- A new node without parent and children. -/
def newNode (cell : Cell) : Build Nat := do
  let id := (← get).slots.size
  modify fun c => { c with slots := c.slots.push ⟨cell, none, #[]⟩ }
  return id

/-- Take a node out of its parent. -/
def detach (id : Nat) : Build Unit := do
  match ((← get).slots[id]?).bind (·.parent) with
  | none => return
  | some parent =>
    modifySlot parent fun s => { s with children := s.children.filter (· != id) }
    modifySlot id fun s => { s with parent := none }

/-- Make a node the last child of another. -/
def append (parent id : Nat) : Build Unit := do
  detach id
  modifySlot parent fun s => { s with children := s.children.push id }
  modifySlot id fun s => { s with parent := some parent }

/-- Put a node before another of the same parent. -/
def insertBefore (sibling id : Nat) : Build Unit := do
  detach id
  match ((← get).slots[sibling]?).bind (·.parent) with
  | none => return
  | some parent =>
    modifySlot parent fun s =>
      let before := s.children.takeWhile (· != sibling)
      { s with children := before.push id ++ s.children.extract before.size s.children.size }
    modifySlot id fun s => { s with parent := some parent }

/-- Add characters to a text node; nothing happens to another node. -/
def extendText (id : Nat) (content : String) : Build Unit :=
  modifySlot id fun s =>
    match s with
    | ⟨.text before, parent, children⟩ => ⟨.text (before ++ content), parent, children⟩
    | s => s

/-- The node is a text. -/
def isText (c : Construction) (id : Nat) : Bool :=
  match c.slots[id]? with
  | some ⟨.text _, _, _⟩ => true
  | _ => false

/-- Add characters at the end of a node's content. -/
def appendText (parent : Nat) (content : String) : Build Unit := do
  let c ← get
  match (c.slots[parent]?).bind (·.children.back?) with
  | some last =>
    if c.isText last then extendText last content
    else append parent (← newNode (.text content))
  | none => append parent (← newNode (.text content))

/-- Add characters before a node. -/
def insertTextBefore (sibling : Nat) (content : String) : Build Unit := do
  let c ← get
  let before := ((c.slots[sibling]?).bind (·.parent)).bind fun parent =>
    (c.slots[parent]?).bind fun s => (s.children.takeWhile (· != sibling)).back?
  match before with
  | some last =>
    if c.isText last then extendText last content
    else insertBefore sibling (← newNode (.text content))
  | none => insertBefore sibling (← newNode (.text content))

/-- Move the children of a node to the end of another's. -/
def moveChildren (source target : Nat) : Build Unit := do
  match (← get).slots[source]? with
  | none => return
  | some s =>
    modifySlot source fun s => { s with children := #[] }
    modifySlot target fun t => { t with children := t.children ++ s.children }
    for id in s.children do
      modifySlot id fun s => { s with parent := some target }

/-- A new element; a template gets a fragment for its contents. -/
def newElement (tag : Tag) : Build Nat := do
  let id ← newNode (.element tag)
  if tag.vocabulary == .html && tag.name == "template" then
    append id (← newNode .fragment)
  return id

/-! ## Places -/

/-- A place for new content. -/
inductive Target where
  | lastChild (parent : Nat)
  /-- Before a table that has a parent, or else within the element that was
  open before it. -/
  | fostered (table before : Nat)

/-- The node that holds the contents of an element. -/
def contents (c : Construction) (id : Nat) : Nat :=
  if c.name id == (.html, "template") then
    ((c.slots[id]?).bind (·.children[0]?)).getD id
  else id

/-- The place for content that belongs into an element. -/
def target (c : Construction) (inside : Nat) : Target :=
  if c.fostering && isOneOf ["table", "tbody", "tfoot", "thead", "tr"] (c.name inside) then
    go c.openElements.toList.reverse
  else .lastChild (c.contents inside)
where
  /-- The search for the table, from the innermost element outwards. -/
  go : List Nat → Target
    | [] => .lastChild (c.openElements[0]?.getD 0)
    | id :: rest =>
      if c.name id == (.html, "template") then .lastChild (c.contents id)
      else if c.name id == (.html, "table") then .fostered id (rest.headD 0)
      else go rest

/-- Put a node into a place. -/
def place (target : Target) (id : Nat) : Build Unit := do
  match target with
  | .lastChild parent => append parent id
  | .fostered table before =>
    if (((← get).slots[table]?).bind (·.parent)).isSome then insertBefore table id
    else append before id

/-- Put characters where content belongs now. -/
def insertText (content : String) : Build Unit := do
  if content.isEmpty then return
  let c ← get
  match c.target c.current with
  | .lastChild parent => appendText parent content
  | .fostered table before =>
    if ((c.slots[table]?).bind (·.parent)).isSome then insertTextBefore table content
    else appendText before content

/-- Put a node where content belongs now. -/
def insertNode (id : Nat) : Build Unit := do
  let c ← get
  place (c.target c.current) id

/-- Put a comment where content belongs now. -/
def insertComment (content : String) : Build Unit := do
  insertNode (← newNode (.comment content))

/-! ## Open elements -/

/-- Open an element. -/
def push (id : Nat) : Build Unit :=
  modify fun c => { c with openElements := c.openElements.push id }

/-- Close the innermost element. -/
def pop : Build Unit := modify fun c => { c with openElements := c.openElements.pop }

/-- Close a certain element, wherever it is. -/
def unopen (id : Nat) : Build Unit :=
  modify fun c => { c with openElements := c.openElements.filter (· != id) }

/-- Close elements up to and including the innermost that satisfies `p`. -/
def popUntil (p : ElementName → Bool) : Build Unit :=
  modify fun c =>
    let outer := (c.openElements.toList.reverse.dropWhile fun id => !p (c.name id)).drop 1
    { c with openElements := outer.reverse.toArray }

/-- Close elements up to and including the innermost of a name. -/
def popUntilNamed (name : String) : Build Unit := popUntil (· == (.html, name))

/-- Close elements until the innermost satisfies `p`. -/
def popUntilCurrent (p : ElementName → Bool) : Build Unit :=
  modify fun c =>
    let outer := c.openElements.toList.reverse.dropWhile fun id => !p (c.name id)
    { c with openElements := outer.reverse.toArray }

/-- Close the innermost elements that are among the named ones. -/
def closeImplied (names : List String) : Build Unit :=
  popUntilCurrent fun n => !isOneOf names n

/-- Close the innermost elements whose end tag may be left out, but not one of
the given name. -/
def closeImpliedExcept (name : String) : Build Unit :=
  closeImplied (endsByItself.filter (· != name))

/-- Create an element of a vocabulary, put it where content belongs and open
it. -/
def insertElement (v : Vocabulary) (t : RawTag) : Build Nat := do
  let id ← newElement (t.inVocabulary v)
  insertNode id
  push id
  return id

/-- Put an ordinary element where content belongs and open it. -/
def insertOpen (t : RawTag) : Build Unit := do
  let _ ← insertElement .html t

/-- Put an ordinary element without content where content belongs. -/
def insertClosed (t : RawTag) : Build Unit := do
  let _ ← insertElement .html t
  pop

/-- An element that no tag was written for. -/
def impliedTag (name : String) : RawTag := ⟨name, [], false⟩

/-- Open an element whose start tag was left out. -/
def insertImplied (name : String) : Build Unit := insertOpen (impliedTag name)

/-- Give an element the attributes it has not. -/
def addMissingAttributes (id : Nat) (t : RawTag) : Build Unit :=
  modifySlot id fun s =>
    match s with
    | ⟨.element tag, parent, children⟩ =>
      let fresh := t.attributes.filter fun (name, _) => (tag.attribute? name).isNone
      let added := fresh.map fun (name, value) => Attribute.mk .plain name value
      ⟨.element { tag with attributes := tag.attributes ++ added }, parent, children⟩
    | s => s

/-- Close the paragraph that is open. -/
def closeParagraph : Build Unit := do
  closeImpliedExcept "p"
  popUntilNamed "p"

/-- Close the paragraph that is open, if one is. -/
def closeOpenParagraph : Build Unit := do
  if (← get).namedInScope boundsButtonScope "p" then closeParagraph

/-! ## Formatting elements -/

/-- The place of an element in the list of formatting elements. -/
def formattingIndex? (c : Construction) (id : Nat) : Option Nat :=
  c.formatting.findIdx? fun
    | .element other _ => other == id
    | .marker => false

/-- The formatting elements since the last marker with their places, the latest
first. -/
def recentFormatting (c : Construction) : List (Nat × Nat × RawTag) :=
  go (c.formatting.toList.zipIdx.reverse)
where
  /-- The entries up to a marker. -/
  go : List (Formatting × Nat) → List (Nat × Nat × RawTag)
    | (.element id tag, i) :: rest => (i, id, tag) :: go rest
    | _ => []

/-- Remove an entry of the list of formatting elements. -/
def removeFormatting (i : Nat) : Build Unit :=
  modify fun c => { c with formatting := c.formatting.eraseIdxIfInBounds i }

/-- Begin a new part of the list of formatting elements. -/
def pushMarker : Build Unit :=
  modify fun c => { c with formatting := c.formatting.push .marker }

/-- Remove the entries since the last marker, and the marker. -/
def clearToMarker : Build Unit :=
  modify fun c =>
    let outer := (c.formatting.toList.reverse.dropWhile fun
      | .element _ _ => true
      | .marker => false).drop 1
    { c with formatting := outer.reverse.toArray }

/-- Two tags are alike but for the order of their attributes. -/
def sameTag (s t : RawTag) : Bool :=
  s.name == t.name && s.attributes.length == t.attributes.length &&
    s.attributes.all fun a => t.attributes.contains a

/-- Open a formatting element.  Of four alike in one part of the list, the
earliest is forgotten. -/
def insertFormatting (t : RawTag) : Build Unit := do
  let alike := (← get).recentFormatting.filter fun (_, _, old) => sameTag t old
  if 3 ≤ alike.length then
    match alike.getLast? with
    | some (i, _, _) => removeFormatting i
    | none => pure ()
  let id ← insertElement .html t
  modify fun c => { c with formatting := c.formatting.push (.element id t) }

/-- Open anew the latest formatting elements that are not open. -/
def reconstructFormatting : Build Unit := do
  let c ← get
  let closed := (c.formatting.toList.zipIdx.reverse.takeWhile fun
    | (.element id _, _) => !c.openElements.contains id
    | (.marker, _) => false).reverse
  for (entry, i) in closed do
    match entry with
    | .element _ tag =>
      let id ← insertElement .html tag
      modify fun c => { c with formatting := c.formatting.setIfInBounds i (.element id tag) }
    | .marker => pure ()

/-- An end tag that nothing else is said about: it closes the innermost element
of its name, unless a special element stands between. -/
def closeOrdinary (name : String) : Build Unit := do
  let c ← get
  match go c c.openElements.toList.reverse with
  | none => return
  | some id =>
    closeImpliedExcept name
    modify fun c => { c with openElements := c.openElements.takeWhile (· != id) }
where
  /-- The element that is closed. -/
  go (c : Construction) : List Nat → Option Nat
    | [] => none
    | id :: rest =>
      if c.name id == (.html, name) then some id
      else if isSpecial (c.name id) then none
      else go c rest

/-- Where the new formatting element goes in the list of them. -/
inductive Bookmark where
  | replace (id : Nat)
  | after (id : Nat)

/-- What the inner loop of `adopt` has reached. -/
structure Adoption where
  /-- The place among the open elements. -/
  index : Nat
  last : Nat
  bookmark : Bookmark

/-- One step of the inner loop: the element one place further out is copied or
closed, and takes in what the loop has moved so far.  `none` ends the loop. -/
def adoptStep (formatting block : Nat) (count : Nat) (a : Adoption) :
    Build (Option Adoption) := do
  let c ← get
  let index := a.index - 1
  let node := c.openElements[index]?.getD 0
  if node == formatting || a.index == 0 then return none
  match c.formattingIndex? node with
  | none =>
    modify fun c => { c with openElements := c.openElements.eraseIdxIfInBounds index }
    return some { a with index }
  | some place =>
    if 3 < count then
      removeFormatting place
      modify fun c => { c with openElements := c.openElements.eraseIdxIfInBounds index }
      return some { a with index }
    match c.formatting[place]? with
    | some (.element _ tag) =>
      let copy ← newElement (tag.inVocabulary .html)
      modify fun c => { c with
        openElements := c.openElements.setIfInBounds index copy
        formatting := c.formatting.setIfInBounds place (.element copy tag) }
      append copy a.last
      let bookmark := if a.last == block then .after copy else a.bookmark
      return some ⟨index, copy, bookmark⟩
    | _ => return none

/-- The inner loop: from the block outwards to the formatting element. -/
def adoptLoop (formatting block : Nat) (count : Nat) (a : Adoption) : Nat → Build Adoption
  | 0 => return a
  | fuel + 1 => do
    match ← adoptStep formatting block count a with
    | none => return a
    | some a => adoptLoop formatting block (count + 1) a fuel

/-- One round of `adopt`; it tells whether there may be another. -/
def adoptRound (name : String) : Build Bool := do
  let c ← get
  match c.recentFormatting.find? fun (_, _, tag) => tag.name == name with
  | none =>
    closeOrdinary name
    return false
  | some (place, element, tag) =>
    match c.openElements.toList.reverse.findIdx? (· == element) with
    | none =>
      removeFormatting place
      return false
    | some fromEnd =>
      let index := c.openElements.size - 1 - fromEnd
      if !c.hasInScope boundsScope (· == element) then return false
      match (c.openElements.toList.drop index).find? fun id => isSpecial (c.name id) with
      | none =>
        modify fun c => { c with openElements := c.openElements.extract 0 index }
        removeFormatting place
        return false
      | some block =>
        let ancestor := c.openElements[index - 1]?.getD 0
        let blockIndex := index +
          ((c.openElements.toList.drop index).findIdx? (· == block)).getD 0
        let a ← adoptLoop element block 1 ⟨blockIndex, block, .replace element⟩ blockIndex
        detach a.last
        let c ← get
        place' c ancestor a.last
        let copy ← newElement (tag.inVocabulary .html)
        moveChildren block copy
        append block copy
        let entry := Formatting.element copy tag
        let c ← get
        match a.bookmark with
        | .replace id =>
          match c.formattingIndex? id with
          | some i => set { c with formatting := c.formatting.setIfInBounds i entry }
          | none => pure ()
        | .after id =>
          match c.formattingIndex? id with
          | some i =>
            let entries := c.formatting.extract 0 (i + 1) ++ #[entry] ++
              c.formatting.extract (i + 1) c.formatting.size
            set { c with formatting := entries }
            match (← get).formattingIndex? element with
            | some j => removeFormatting j
            | none => pure ()
          | none => pure ()
        unopen element
        modify fun c =>
          let before := c.openElements.takeWhile (· != block)
          { c with openElements := before ++ #[block, copy] ++
              c.openElements.extract (before.size + 1) c.openElements.size }
        return true
where
  /-- Put a node where content of another belongs. -/
  place' (c : Construction) (inside id : Nat) : Build Unit := place (c.target inside) id

/-- The end tag of a formatting element that may overlap other elements: what
lies in a block is given its own copy of the formatting. -/
def adopt (name : String) : Build Unit := do
  let c ← get
  if c.currentName == (.html, name) && (c.formattingIndex? c.current).isNone then pop
  else go 8
where
  /-- The rounds. -/
  go : Nat → Build Unit
    | 0 => return
    | n + 1 => do if ← adoptRound name then go n

/-- Close a link that is open when another begins. -/
def closeOpenLink : Build Unit := do
  match (← get).recentFormatting.find? fun (_, _, tag) => tag.name == "a" with
  | none => return
  | some (_, id, _) =>
    adopt "a"
    match (← get).formattingIndex? id with
    | some i => removeFormatting i
    | none => pure ()
    unopen id

/-! ## Modes -/

/-- Go over to a mode. -/
def enter (mode : Mode) : Build Unit := modify fun c => { c with mode }

/-- The mode that the open elements call for. -/
def resetMode (c : Construction) : Mode :=
  go c.openElements.toList.reverse
where
  /-- The search, from the innermost element outwards. -/
  go : List Nat → Mode
    | [] => .inBody
    | id :: rest =>
      let last := rest.isEmpty
      let name := match last, c.context with
        | true, some tag => (tag.vocabulary, tag.name)
        | _, _ => c.name id
      if name.1 != .html then go rest
      else
        match name.2 with
        | "select" =>
          if (rest.find? fun id => isOneOf ["template", "table"] (c.name id)).any
              fun id => c.name id == (.html, "table")
          then .inSelectInTable else .inSelect
        | "td" | "th" => if last then go rest else .inCell
        | "tr" => .inRow
        | "tbody" | "thead" | "tfoot" => .inTableBody
        | "caption" => .inCaption
        | "colgroup" => .inColumnGroup
        | "table" => .inTable
        | "template" => c.templateModes.headD .inBody
        | "head" => if last then go rest else .inHead
        | "body" => .inBody
        | "frameset" => .inFrameset
        | "html" => if c.head.isNone then .beforeHead else .afterHead
        | _ => go rest

/-- Read the content of an element as text, up to its end tag. -/
def enterText (t : RawTag) (content : ContentMode) : Build Unit := do
  insertOpen t
  modify fun c => { c with returnMode := c.mode, mode := .text, content }

/-- Forbid a frameset, for there is other content. -/
def forbidFrames : Build Unit := modify fun c => { c with framesAllowed := false }

/-! ## The finished tree -/

/-- The tree below a node; `fuel` bounds its depth. -/
def treeAt (c : Construction) (fuel : Nat) (id : Nat) : Node :=
  match fuel with
  | 0 => .text ""
  | fuel + 1 =>
    match c.slots[id]? with
    | none => .text ""
    | some slot =>
      let children := slot.children.toList.map (treeAt c fuel)
      match slot.cell with
      | .document => .document children
      | .fragment => .fragment children
      | .element tag => .element tag children
      | .text content => .text content
      | .comment content => .comment content
      | .doctype name => .doctype name

/-- The finished tree; no node lies deeper than there are nodes. -/
def tree (c : Construction) : Node := c.treeAt (c.slots.size + 1) 0

/-- A construction with nothing but its root. -/
def start (root : Cell) (context : Option Tag) : Construction where
  slots := #[⟨root, none, #[]⟩]
  mode := .initial
  returnMode := .inBody
  templateModes := []
  openElements := #[]
  formatting := #[]
  tableText := []
  head := none
  form := none
  context
  framesAllowed := true
  dropLineFeed := false
  fostering := false
  oldLayout := false
  content := .data

end Construction

end Folio.Markup
