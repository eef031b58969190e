import Folio.Rule.Failure
import Folio.Selector.Parser
import Folio.Selector.Matching
import Folio.Markup.Flatten

/-!
# Folio.Rule.Step

The steps of a structural cascade.  A step selects elements inside each of the
elements it is given: all children, those that match a selector, or those with
a certain text of their own.  An index suffix (`.N`, `!N`, `[N]`, `[!N]`) keeps
one of the elements selected inside each given element, or removes one; of
several suffixes the last one counts.
-/

namespace Folio.Rule

open Folio.Text Folio.Markup Folio.Selector

/-! ## Index suffixes -/

/-- What an index suffix says: keep only the element at a position, or remove
it.  A negative position counts from the end. -/
inductive Index where
  | keep (position : Int)
  | remove (position : Int)
deriving DecidableEq, Repr

/-- The text consists of digits, colons and minus signs, with a digit and a
colon at least. -/
def isRange (s : List Char) : Bool :=
  s.contains ':' && s.any isAsciiDigit && s.all fun c => isAsciiDigit c || c == ':' || c == '-'

/-- Positions are 64-bit integers. -/
def position64? (s : List Char) : Option Int :=
  let digits := (stripPrefix? ['-'] s).getD s
  if digits ≠ [] ∧ digits.all isAsciiDigit then
    integerWithin? (-(Int.pow 2 63)) (Int.pow 2 63 - 1) s
  else none

/-- What the inside of a suffix says: a position, which `!` may precede.
Nothing when it is no suffix, and a failure when it is a range. -/
def readIndex? (s : List Char) : Option (Except Failure Index) :=
  let (removes, number) := match stripPrefix? ['!'] s with
    | some rest => (true, rest)
    | none => (false, s)
  if isRange number then some (.error (.range (String.ofList s)))
  else (position64? number).map fun n => .ok (if removes then .remove n else .keep n)

/-- The text before the last character of class `p`, that character, and the
text after it. -/
def splitLast? (p : Char → Bool) (s : List Char) : Option (List Char × Char × List Char) :=
  let after := (s.reverse.takeWhile fun c => !p c).reverse
  match s.reverse.drop after.length with
  | [] => none
  | c :: before => some (before.reverse, c, after)

/-- The last suffix of a step, when it has one, and the text before it. -/
def lastSuffix? (s : List Char) : Option (List Char × Except Failure Index) :=
  if endsWith [']'] s then do
    let (before, _, inside) ← splitLast? (· == '[') s.dropLast
    return (before, ← readIndex? inside)
  else do
    let (before, mark, after) ← splitLast? (fun c => c == '.' || c == '!') s
    if before.isEmpty then none
    else return (before, ← readIndex? (if mark = '!' then '!' :: after else after))

theorem splitLast?_shorter {p : Char → Bool} {s before after : List Char} {c : Char}
    (h : splitLast? p s = some (before, c, after)) : before.length < s.length := by
  unfold splitLast? at h
  simp only at h
  split at h
  · simp at h
  · next d rest hd =>
    have hl := congrArg List.length hd
    simp only [List.length_drop, List.length_reverse, List.length_cons] at hl
    simp only [Option.some.injEq, Prod.mk.injEq] at h
    rw [← h.1, List.length_reverse]
    omega

/-- What stands before a suffix is shorter than the step. -/
theorem lastSuffix?_shorter {s before : List Char} {index : Except Failure Index}
    (h : lastSuffix? s = some (before, index)) : before.length < s.length := by
  unfold lastSuffix? at h
  split at h
  · simp only [Option.bind_eq_bind, Option.bind_eq_some_iff, Option.pure_def,
      Option.some.injEq, Prod.exists, Prod.mk.injEq] at h
    obtain ⟨b, c, i, hs, x, _, rfl, _⟩ := h
    have := splitLast?_shorter hs
    simp only [List.length_dropLast] at this
    omega
  · simp only [Option.bind_eq_bind, Option.bind_eq_some_iff, Prod.exists] at h
    obtain ⟨b, c, i, hs, h⟩ := h
    split at h
    · simp at h
    · simp only [Option.bind_eq_some_iff, Option.pure_def, Option.some.injEq,
        Prod.mk.injEq] at h
      obtain ⟨x, _, rfl, _⟩ := h
      exact splitLast?_shorter hs

/-- The step without its suffixes, and what the last suffix says; `found` is
what a suffix further right says. -/
def splitIndexFrom (found : Option Index) (s : List Char) :
    Except Failure (List Char × Option Index) :=
  match _h : lastSuffix? s with
  | none => .ok (s, found)
  | some (before, index) =>
    match index with
    | .error e => .error e
    | .ok index => splitIndexFrom (some (found.getD index)) before
termination_by s.length
decreasing_by exact lastSuffix?_shorter _h

/-- The step without its suffixes, and what the last suffix says. -/
def splitIndex (s : List Char) : Except Failure (List Char × Option Index) :=
  splitIndexFrom none s

/-- The place that a position has in a list of the given length. -/
def resolvePosition (length : Nat) (position : Int) : Option Nat :=
  if 0 ≤ position then
    if position.toNat < length then some position.toNat else none
  else if (-position).toNat ≤ length then some (length - (-position).toNat)
  else none

/-- The items that an index suffix leaves. -/
def applyIndex {α : Type} (index : Option Index) (items : List α) : List α :=
  match index with
  | none => items
  | some (.keep position) =>
    ((resolvePosition items.length position).bind (items[·]?)).toList
  | some (.remove position) =>
    match resolvePosition items.length position with
    | some i => items.eraseIdx i
    | none => items

/-! ## Steps -/

/-- What a step selects inside an element. -/
inductive Selection where
  | children
  | matching (selector : SelectorList)
  /-- Elements whose own text contains a text. -/
  | ownTextContains (needle : String)

/-- A step. -/
structure Step where
  selection : Selection
  index : Option Index

/-- A step that is a selector. -/
def compileSelector (css : List Char) : Except Failure Selection :=
  let text := String.ofList css
  if (trim css).isEmpty then .error (.selector text)
  else
    match SelectorList.parse? text with
    | some selector => .ok (.matching selector)
    | none => .error (.selector text)

/-- What a step without suffix selects.  `class.`, `id.`, `tag.` and `text.`
introduce names and texts; everything else is a selector. -/
def readSelection (base : List Char) : Except Failure Selection :=
  if base = "children".toList then .ok .children
  else
    match stripPrefix? "class.".toList base with
    | some names => compileSelector ((words names).flatMap ('.' :: ·))
    | none =>
      match stripPrefix? "id.".toList base with
      | some name => compileSelector ('#' :: name)
      | none =>
        match stripPrefix? "tag.".toList base with
        | some name => compileSelector name
        | none =>
          match stripPrefix? "text.".toList base with
          | some needle => .ok (.ownTextContains (String.ofList needle))
          | none => compileSelector base

/-- Read a step. -/
def Step.read (raw : List Char) : Except Failure Step := do
  let (base, index) ← splitIndex (trim raw)
  let selection ← readSelection (trim base)
  return ⟨selection, index⟩

/-- The elements that a selection finds inside a place, in document order. -/
def Selection.inside (s : Selection) (root : Place) : List Place :=
  match s with
  | .children => root.childElements
  | .matching selector => selector.select root
  | .ownTextContains needle =>
    root.elementsBelow.filter fun p => contains needle.toList (ownText p.node).toList

/-- Apply a step to every place; the index counts inside each of them. -/
def Step.apply (step : Step) (roots : List Place) : List Place :=
  roots.flatMap fun root => applyIndex step.index (step.selection.inside root)

/-- Run the steps of a cascade from some places.  Steps after one that finds
nothing are not even read. -/
def runCascade (current : List Place) : List (List Char) → Except Failure (List Place)
  | [] => .ok current
  | raw :: rest =>
    match Step.read raw with
    | .error e => .error e
    | .ok step =>
      let next := step.apply current
      if next.isEmpty then .ok [] else runCascade next rest

/-- Run the steps of a cascade from a place. -/
def selectCascade (root : Place) (steps : List (List Char)) : Except Failure (List Place) :=
  runCascade [root] steps

/-! ## Leaves -/

/-- A text that can be the name of an attribute. -/
def isAttributeName (s : List Char) : Bool :=
  !s.isEmpty && s.all fun c => isAsciiAlnum c || c == '-' || c == '_' || c == ':'

end Folio.Rule
