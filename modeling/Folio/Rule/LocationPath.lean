import Folio.Rule.Failure
import Folio.Rule.Split
import Folio.Markup.Flatten
import Folio.Text.Ascii
import Std.Data.HashSet

/-!
# Folio.Rule.LocationPath

Location paths: a small part of XPath over markup trees.  A path walks from the
document or from an element along steps; each step takes candidates from every
context and keeps those that survive its predicates, which count positions
among the candidates of one context.  Elements found twice are kept once.

Positions and offsets are words of a machine.  Where two of them add up to more
than a word, evaluation stops, and so does the program.
-/

namespace Folio.Rule

open Folio.Text Folio.Markup

/-! ## Paths -/

/-- What a step takes from a context. -/
inductive NodeTest where
  | name (name : String)
  | anyElement
  | text
  | attribute (name : String)
  | anyAttribute
  | self
  | parent
deriving DecidableEq, Repr

/-- What a predicate looks at. -/
inductive Operand where
  | attribute (name : String)
  /-- Child elements of a name. -/
  | child (name : String)
  | text
  | self
deriving DecidableEq, Repr

/-- A comparison of positions. -/
inductive PositionOrder where
  | lt
  | le
  | gt
  | ge
  | eq
  | ne
deriving DecidableEq, Repr

/-- A condition on a candidate. -/
inductive Predicate where
  | position (n : Nat)
  /-- The place of the last candidate less an offset. -/
  | last (offset : Nat)
  | positionIs (order : PositionOrder) (n : Int)
  | has (operand : Operand)
  | equals (operand : Operand) (value : String) (negate : Bool)
  | contains (operand : Operand) (value : String)
  | startsWith (operand : Operand) (value : String)
  | not (inner : Predicate)
  | and (left right : Predicate)
  | or (left right : Predicate)
deriving DecidableEq, Repr

/-- A step of a path. -/
structure PathStep where
  /-- The contexts are everything inside the present ones, and these. -/
  descendant : Bool
  test : NodeTest
  predicates : List Predicate
deriving DecidableEq, Repr

/-- A location path. -/
structure LocationPath where
  /-- The path begins at the document. -/
  absolute : Bool
  steps : List PathStep
deriving DecidableEq, Repr

/-! ## Reading -/

/-- A text that can be a name: letters, digits, `-`, `_` and `:`, but no
double colon. -/
def isPathName (s : List Char) : Bool :=
  !s.isEmpty && s.all (fun c => isAsciiAlnum c || c == '-' || c == '_' || c == ':') &&
    !contains [':', ':'] s

/-- Read what a step takes. -/
def NodeTest.read (test : List Char) : Except PathFailure NodeTest :=
  if test = ['.'] then .ok .self
  else if test = ['.', '.'] then .ok .parent
  else if test = ['*'] ∨ test = "node()".toList then .ok .anyElement
  else if test = "text()".toList then .ok .text
  else if test = ['@', '*'] then .ok .anyAttribute
  else
    match stripPrefix? ['@'] test with
    | some rest =>
      if isPathName rest then .ok (.attribute (String.ofList rest))
      else .error (.unsupportedStep (String.ofList test))
    | none =>
      if isPathName test then .ok (.name (String.ofList (test.map lowerAscii)))
      else .error (.unsupportedStep (String.ofList test))

/-- Read what a predicate looks at. -/
def Operand.read (text : List Char) : Except PathFailure Operand :=
  let text := trim text
  if text = "text()".toList then .ok .text
  else if text = ['.'] then .ok .self
  else
    match stripPrefix? ['@'] text with
    | some rest =>
      if isPathName rest then .ok (.attribute (String.ofList rest))
      else .error (.unsupportedOperand (String.ofList text))
    | none =>
      if isPathName text then .ok (.child (String.ofList text))
      else .error (.unsupportedOperand (String.ofList text))

/-- Read a quoted string. -/
def readLiteral (text : List Char) : Except PathFailure String :=
  let text := trim text
  match quotedBy? '\'' text with
  | some inner => .ok (String.ofList inner)
  | none =>
    match quotedBy? '"' text with
    | some inner => .ok (String.ofList inner)
    | none => .error (.unquoted (String.ofList text))

/-- The arguments of a call of the named function, when the text is one. -/
def readCall (name text : List Char) : Except PathFailure (Option (Operand × String)) :=
  let inside := (stripPrefix? name text).bind fun rest =>
    (stripPrefix? ['('] (trimStart rest)).bind (stripSuffix? [')'])
  match inside with
  | none => .ok none
  | some inside =>
    match splitTopLevel [','] true inside with
    | [operand, value] =>
      match Operand.read operand with
      | .error e => .error e
      | .ok operand =>
        match readLiteral value with
        | .error e => .error e
        | .ok value => .ok (some (operand, value))
    | _ => .error (.twoArguments (String.ofList name))

/-- The marks for comparisons of positions, the longer before the shorter. -/
def orderMarks : List (List Char × PositionOrder) :=
  [(['<', '='], .le), (['>', '='], .ge), (['!', '='], .ne), (['<'], .lt), (['>'], .gt),
    (['='], .eq)]

/-- Read a comparison of the position: what follows `position()`. -/
def readOrder (text rest : List Char) : Except PathFailure Predicate :=
  match orderMarks.findSome? fun (mark, o) => (stripPrefix? mark rest).map fun n => (o, n) with
  | none => .error (.unsupportedPredicate (String.ofList text))
  | some (o, number) =>
    match integerWithin? (-(Int.pow 2 63)) (Int.pow 2 63 - 1) (trim number) with
    | some n => .ok (.positionIs o n)
    | none => .error (.badPosition (String.ofList text))

/-- Read an offset from the last position: what follows `last()`. -/
def readLast (text rest : List Char) : Except PathFailure Predicate :=
  if rest.isEmpty then .ok (.last 0)
  else
    match (stripPrefix? ['-'] rest).bind fun n => naturalUpTo? (Nat.pow 2 64 - 1) (trim n) with
    | some offset => .ok (.last offset)
    | none => .error (.unsupportedPredicate (String.ofList text))

/-- Read a comparison for equality, or else a test for existence. -/
def readEquality (text : List Char) : Except PathFailure Predicate :=
  let compare (negate : Bool) (operand value : List Char) : Except PathFailure Predicate := do
    let operand ← Operand.read operand
    let value ← readLiteral value
    return .equals operand value negate
  match splitTopLevel ['!', '='] true text with
  | [operand, value] => compare true operand value
  | _ =>
    match splitTopLevel ['='] true text with
    | [operand, value] => compare false operand value
    | _ => (Operand.read text).map .has

/-- Read a condition without connectives. -/
def readAtom (text : List Char) : Except PathFailure Predicate :=
  match naturalUpTo? (Nat.pow 2 64 - 1) text with
  | some 0 => .error .positionZero
  | some n => .ok (.position n)
  | none =>
    match stripPrefix? "last()".toList text with
    | some rest => readLast text (trim rest)
    | none =>
      match stripPrefix? "position()".toList text with
      | some rest => readOrder text (trim rest)
      | none =>
        match readCall "contains".toList text with
        | .error e => .error e
        | .ok (some (operand, value)) => .ok (.contains operand value)
        | .ok none =>
          match readCall "starts-with".toList text with
          | .error e => .error e
          | .ok (some (operand, value)) => .ok (.startsWith operand value)
          | .ok none => readEquality text

mutual

/-- Read a condition: `or` binds weaker than `and`, and both take the first of
their sides first.  `fuel` bounds the nesting. -/
def Predicate.readWith (fuel : Nat) (text : List Char) : Except PathFailure Predicate :=
  match fuel with
  | 0 => .error (.unsupportedPredicate (String.ofList text))
  | fuel + 1 =>
    let text := trim text
    match splitTopLevel " or ".toList true text with
    | first :: second :: rest => do
      foldPredicates fuel .or (← Predicate.readWith fuel first) (second :: rest)
    | _ =>
      match splitTopLevel " and ".toList true text with
      | first :: second :: rest => do
        foldPredicates fuel .and (← Predicate.readWith fuel first) (second :: rest)
      | _ =>
        match (stripPrefix? "not(".toList text).bind (stripSuffix? [')']) with
        | some inner => (Predicate.readWith fuel inner).map .not
        | none => readAtom text

/-- Read further sides and join them to what stands before them. -/
def foldPredicates (fuel : Nat) (join : Predicate → Predicate → Predicate) (left : Predicate)
    (parts : List (List Char)) : Except PathFailure Predicate :=
  match parts with
  | [] => .ok left
  | part :: rest =>
    match fuel with
    | 0 => .error (.unsupportedPredicate (String.ofList part))
    | fuel + 1 => do
      foldPredicates fuel join (join left (← Predicate.readWith fuel part)) rest

end

/-- Read a condition. -/
def Predicate.read (text : List Char) : Except PathFailure Predicate :=
  Predicate.readWith (2 * text.length + 2) text

/-- The inside of a bracket and what follows it, where the bracket has been
opened `depth` times and a quotation mark may be open. -/
def closeBracket? (depth : Nat) (quote : Option Char) : List Char → Option (List Char × List Char)
  | [] => none
  | c :: rest =>
    let more (depth : Nat) (quote : Option Char) :=
      (closeBracket? depth quote rest).map fun (inside, after) => (c :: inside, after)
    match quote with
    | some q => more depth (if c = q then none else quote)
    | none =>
      if c = '\'' ∨ c = '"' then more depth (some c)
      else if c = '[' then more (depth + 1) none
      else if c = ']' then
        match depth with
        | 0 => some ([], rest)
        | depth + 1 => more depth none
      else more depth none

theorem closeBracket?_shorter {depth : Nat} {quote : Option Char} {s inside after : List Char}
    (h : closeBracket? depth quote s = some (inside, after)) : after.length < s.length := by
  induction s generalizing depth quote inside with
  | nil => simp [closeBracket?] at h
  | cons c rest ih =>
    have step : ∀ d q, ((closeBracket? d q rest).map fun (i, a) => (c :: i, a)) =
        some (inside, after) → after.length < (c :: rest).length := by
      intro d q hm
      simp only [Option.map_eq_some_iff, Prod.exists, Prod.mk.injEq] at hm
      obtain ⟨i, a, hc, _, rfl⟩ := hm
      have := ih hc
      simp only [List.length_cons]
      omega
    unfold closeBracket? at h
    simp only at h
    split at h
    · exact step _ _ h
    · split at h
      · exact step _ _ h
      · split at h
        · exact step _ _ h
        · split at h
          · split at h
            · simp only [Option.some.injEq, Prod.mk.injEq] at h
              rw [← h.2]
              simp
            · exact step _ _ h
          · exact step _ _ h

/-- The insides of brackets in sequence; `whole` is the text they are part
of. -/
def bracketGroups (whole s : List Char) : Except PathFailure (List (List Char)) :=
  match s with
  | [] => .ok []
  | c :: rest =>
    if c = '[' then
      match _h : closeBracket? 0 none rest with
      | none => .error (.unclosedPredicate (String.ofList whole))
      | some (inside, after) =>
        match bracketGroups whole (trimStart after) with
        | .error e => .error e
        | .ok groups => .ok (inside :: groups)
    else .error (.unexpected (String.ofList (c :: rest)))
termination_by s.length
decreasing_by
  have h₁ := closeBracket?_shorter _h
  have h₂ := (List.dropWhile_sublist (l := after) isBlank).length_le
  simp only [trimStart, List.length_cons]
  omega

/-- Read conditions in sequence. -/
def readPredicates : List (List Char) → Except PathFailure (List Predicate)
  | [] => .ok []
  | text :: rest => do
    let p ← Predicate.read text
    let ps ← readPredicates rest
    return p :: ps

/-- Read a step. -/
def PathStep.read (descendant : Bool) (segment : List Char) : Except PathFailure PathStep := do
  let test ← NodeTest.read (trim (segment.takeWhile (· != '[')))
  let brackets := segment.dropWhile (· != '[')
  let groups ← bracketGroups brackets (trimStart brackets)
  return ⟨descendant, test, ← readPredicates groups⟩

/-- Read steps; an empty one means that the next is taken from everything
inside. -/
def readSteps (descendant : Bool) : List (List Char) → Except PathFailure (List PathStep)
  | [] => .ok []
  | segment :: rest =>
    let segment := trim segment
    if segment.isEmpty then readSteps true rest
    else do
      let step ← PathStep.read descendant segment
      let steps ← readSteps false rest
      return step :: steps

/-- Read the beginning of a path: whether it is absolute, whether the first
step is taken from everything inside, and the steps. -/
def pathStart (s : List Char) : Bool × Bool × List Char :=
  match s with
  | '/' :: '/' :: rest => (true, true, rest)
  | '.' :: '/' :: '/' :: rest => (false, true, rest)
  | '.' :: '/' :: rest => (false, false, rest)
  | '/' :: rest => (true, false, rest)
  | rest => (false, false, rest)

/-- Read a path. -/
def LocationPath.read (s : List Char) : Except PathFailure LocationPath := do
  if s.isEmpty then throw .emptyExpression
  let (absolute, descendant, rest) := pathStart s
  let steps ← readSteps descendant (splitTopLevel ['/'] true rest)
  if steps.isEmpty && !absolute then throw (.noSteps (String.ofList s))
  return ⟨absolute, steps⟩

/-! ## Evaluation -/

/-- What a step starts from: an element, or the document, which is known by its
outermost element. -/
structure PathContext where
  isDocument : Bool
  element : Place
deriving Repr

namespace PathContext

/-- What tells the contexts in one tree apart. -/
def key (c : PathContext) : Bool × List Nat := (c.isDocument, c.element.path)

/-- The elements directly inside a context. -/
def children (c : PathContext) : List Place :=
  if c.isDocument then [c.element] else c.element.childElements

/-- The context and everything inside it, in document order. -/
def withDescendants (c : PathContext) : List PathContext :=
  let inside := (c.element :: c.element.elementsBelow).map (PathContext.mk false)
  if c.isDocument then c :: inside else inside

end PathContext

/-- Something a path finds. -/
inductive PathItem where
  | node (context : PathContext)
  | text (content : String)
deriving Repr

/-- The outermost element around a place. -/
def outermostElement (p : Place) : Place :=
  ((go p.trail).getLast?).getD p
where
  /-- The elements along a trail. -/
  go : List Descent → List Place
    | [] => []
    | d :: rest => if d.parent.isElement then ⟨d.parent, rest⟩ :: go rest else go rest

/-- What a step takes from a context. -/
def NodeTest.candidates (test : NodeTest) (c : PathContext) : List PathItem :=
  match test with
  | .name n => (c.children.filter (·.name == n)).map fun p => .node ⟨false, p⟩
  | .anyElement => c.children.map fun p => .node ⟨false, p⟩
  | .text =>
    if c.isDocument then []
    else (trimmedTexts c.element.node).map fun t => .text (String.ofList t)
  | .attribute n =>
    if c.isDocument then [] else ((c.element.attribute? n).map .text).toList
  | .anyAttribute =>
    if c.isDocument then []
    else ((c.element.tag?.map (·.attributes)).getD []).map fun a => .text a.value
  | .self => [.node c]
  | .parent =>
    if c.isDocument then []
    else
      match c.element.parentElement? with
      | some above => [.node ⟨false, above⟩]
      | none => [.node ⟨true, outermostElement c.element⟩]

/-- The values that an operand has on an item. -/
def Operand.values (operand : Operand) : PathItem → List String
  | .node c =>
    match operand with
    | .attribute n => (c.element.attribute? n).toList
    | .child n =>
      (c.element.childElements.filter fun p => eqIgnoreCase p.name n).map fun p => flatText p.node
    | .text => [ownText c.element.node]
    | .self => [flatText c.element.node]
  | .text content =>
    match operand with
    | .attribute _ | .child _ => []
    | .text | .self => [content]

/-- The operand only asks whether something is there. -/
def Operand.isPresence : Operand → Bool
  | .attribute _ | .child _ => true
  | .text | .self => false

/-- The comparison holds. -/
def PositionOrder.holds (o : PositionOrder) (a b : Int) : Bool :=
  match o with
  | .lt => a < b
  | .le => a ≤ b
  | .gt => b < a
  | .ge => b ≤ a
  | .eq => a == b
  | .ne => a != b

/-- The sum of two words of 64 bits, where it is one. -/
def addWords? (a b : Nat) : Option Nat := if a + b < Nat.pow 2 64 then some (a + b) else none

/-- A word as a signed number; the greatest of these stands for all greater
words. -/
def signedWord (n : Nat) : Int := if n < Nat.pow 2 63 then n else Int.pow 2 63 - 1

/-- Whether a candidate at a position, counted from one, among `size` candidates
satisfies a condition.  There is no answer where the position and an offset add
up to more than a word; the right side of a connective is looked at only when
the left one does not decide. -/
def Predicate.holds (p : Predicate) (item : PathItem) (position size : Nat) : Option Bool :=
  match p with
  | .position n => some (position == n)
  | .last offset => (addWords? position offset).map (· == size)
  | .positionIs o n => some (o.holds (signedWord position) n)
  | .has operand =>
    some (if operand.isPresence then !(operand.values item).isEmpty
      else (operand.values item).any (· != ""))
  | .equals operand value negate =>
    some ((operand.values item).any fun actual => (actual == value) != negate)
  | .contains operand value =>
    some ((operand.values item).any fun actual => Text.contains value.toList actual.toList)
  | .startsWith operand value =>
    some ((operand.values item).any fun actual => Text.startsWith value.toList actual.toList)
  | .not inner => (inner.holds item position size).map (!·)
  | .and left right =>
    match left.holds item position size with
    | some true => right.holds item position size
    | decided => decided
  | .or left right =>
    match left.holds item position size with
    | some false => right.holds item position size
    | decided => decided

/-- The candidates from a position on, out of `size`, that satisfy a condition;
nothing where one of them gets no answer. -/
def Predicate.keepFrom (p : Predicate) (size position : Nat) :
    List PathItem → Option (List PathItem)
  | [] => some []
  | item :: rest => do
    let holds ← p.holds item position size
    let kept ← p.keepFrom size (position + 1) rest
    return if holds then item :: kept else kept

/-- The candidates that satisfy a condition. -/
def Predicate.keep (p : Predicate) (items : List PathItem) : Option (List PathItem) :=
  p.keepFrom items.length 1 items

/-- The candidates that survive all conditions, each counting positions among
those that survived the ones before. -/
def keepAll : List Predicate → List PathItem → Option (List PathItem)
  | [], items => some items
  | p :: rest, items => (p.keep items).bind (keepAll rest)

/-- What is found from each of several things, joined in their order; nothing
where one of them has no answer. -/
def findEach {α β : Type} (find : α → Option (List β)) : List α → Option (List β)
  | [] => some []
  | a :: rest => do
    let found ← find a
    let others ← findEach find rest
    return found ++ others

/-- Items without the nodes that stood earlier; `seen` holds the keys of
those. -/
def keepFirst (seen : Std.HashSet (Bool × List Nat)) : List PathItem → List PathItem
  | [] => []
  | .text content :: rest => .text content :: keepFirst seen rest
  | .node c :: rest =>
    if c.key ∈ seen then keepFirst seen rest
    else .node c :: keepFirst (seen.insert c.key) rest

/-- What a step finds from one context. -/
def PathStep.found (step : PathStep) (c : PathContext) : Option (List PathItem) :=
  let contexts := if step.descendant then c.withDescendants else [c]
  findEach (fun inner => keepAll step.predicates (step.test.candidates inner)) contexts

/-- The contexts among items. -/
def itemContexts (items : List PathItem) : List PathContext :=
  items.filterMap fun
    | .node c => some c
    | .text _ => none

/-- What a step finds from items. -/
def PathStep.apply (step : PathStep) (items : List PathItem) : Option (List PathItem) :=
  (findEach step.found (itemContexts items)).map (keepFirst ∅)

/-- What steps find from items, one after the other. -/
def applySteps : List PathStep → List PathItem → Option (List PathItem)
  | [], items => some items
  | step :: rest, items => (step.apply items).bind (applySteps rest)

/-- The context that a path begins with, given the element it is applied to. -/
def LocationPath.start (path : LocationPath) (element : Place) : PathContext :=
  if path.absolute then ⟨true, outermostElement element⟩ else ⟨false, element⟩

/-- What a path finds from an element; nothing where one of its conditions has no
answer for a candidate. -/
def LocationPath.evaluate (path : LocationPath) (element : Place) : Option (List PathItem) :=
  applySteps path.steps [.node (path.start element)]

/-- A result of an expression: an element or a text. -/
inductive PathResult where
  | element (place : Place)
  | text (content : String)

/-- The results without the elements that stood earlier; `seen` holds the paths
of those. -/
def keepFirstElements (seen : Std.HashSet (List Nat)) : List PathItem → List PathResult
  | [] => []
  | .text content :: rest => .text content :: keepFirstElements seen rest
  | .node c :: rest =>
    if c.element.path ∈ seen then keepFirstElements seen rest
    else .element c.element :: keepFirstElements (seen.insert c.element.path) rest

/-- An answer; where there is none, a sum was more than a word. -/
def orOverflow {α : Type} : Option α → Except PathFailure α
  | some answer => .ok answer
  | none => .error .overflow

/-- Read and evaluate paths one after the other. -/
def evaluatePaths (element : Place) : List (List Char) → Except PathFailure (List PathItem)
  | [] => .ok []
  | part :: rest => do
    let path ← LocationPath.read (trim part)
    let items ← orOverflow (path.evaluate element)
    let others ← evaluatePaths element rest
    return items ++ others

/-- What an expression, a union of paths, finds from an element; an element
that several paths find is found once. -/
def evaluatePath (element : Place) (expression : List Char) :
    Except PathFailure (List PathResult) := do
  let items ← evaluatePaths element (splitTopLevel ['|'] true expression)
  return keepFirstElements ∅ items

end Folio.Rule
