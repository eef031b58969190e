import Folio.Regex.Program
import Folio.Text.Table
import Folio.Unicode.Word

/-!
# Folio.Regex.Matching

Running programs on texts.  All ways to match are followed side by side, one
character at a time, in the order in which they are preferred; a way that
reaches an instruction that a preferred way reached before is dropped, so that
each instruction is followed at most once at each place.
-/

namespace Folio.Regex

open Folio.Text Folio.Unicode

/-! ## Assertions -/

/-- A character of a word stands at the index. -/
def WordRule.holdsAt (rule : WordRule) (text : Array Char) (i : Nat) : Bool :=
  match text[i]?, rule with
  | none, _ => false
  | some c, .ascii => isAsciiAlnum c || c == '_'
  | some c, .unicode => isWord c

/-- A character of a word stands before the index. -/
def WordRule.holdsBefore (rule : WordRule) (text : Array Char) (i : Nat) : Bool :=
  match i with
  | 0 => false
  | i + 1 => rule.holdsAt text i

/-- The character before the index. -/
def charBefore? (text : Array Char) (i : Nat) : Option Char :=
  match i with
  | 0 => none
  | i + 1 => text[i]?

/-- The assertion holds at a place of a text. -/
def Assertion.holds (text : Array Char) (i : Nat) : Assertion → Bool
  | .textStart => i == 0
  | .textEnd => i == text.size
  | .lineStart .lineFeed => i == 0 || charBefore? text i == some '\n'
  | .lineStart .carriageReturn =>
    i == 0 || charBefore? text i == some '\n' ||
      (charBefore? text i == some '\r' && text[i]? != some '\n')
  | .lineEnd .lineFeed => i == text.size || text[i]? == some '\n'
  | .lineEnd .carriageReturn =>
    i == text.size || text[i]? == some '\r' ||
      (text[i]? == some '\n' && charBefore? text i != some '\r')
  | .wordBoundary rule => rule.holdsBefore text i != rule.holdsAt text i
  | .noWordBoundary rule => rule.holdsBefore text i == rule.holdsAt text i
  | .wordStart rule => !rule.holdsBefore text i && rule.holdsAt text i
  | .wordEnd rule => rule.holdsBefore text i && !rule.holdsAt text i
  | .wordStartHalf rule => !rule.holdsBefore text i
  | .wordEndHalf rule => !rule.holdsAt text i

/-! ## Ways to match -/

/-- Where groups matched: slot `2 * n` holds the beginning of group `n` and the
slot after it its end. -/
abbrev Captures := List (Nat × Nat)

/-- Record a place, the latest first. -/
def Captures.record (captures : Captures) (slot place : Nat) : Captures :=
  (slot, place) :: captures

/-- The place recorded last in a slot. -/
def Captures.slot? (captures : Captures) (slot : Nat) : Option Nat :=
  (captures.find? (·.1 == slot)).map (·.2)

/-- A way to match: the next instruction and what was recorded. -/
structure Thread where
  next : Nat
  captures : Captures

/-- The ways that wait for a character, last first, and for each instruction
the stamp of the place where it was reached last. -/
structure Front where
  threads : List Thread
  stamps : Array Nat

/-- Follow ways without taking a character, the first of `stack` first, until
each waits for one or accepts.  An instruction that has the stamp was reached
before; `fuel` counts instructions. -/
def follow (code : Code) (text : Array Char) (place : Nat) :
    Nat → List Thread → Front → Front
  | 0, _, front => front
  | _, [], front => front
  | fuel + 1, thread :: stack, front =>
    if front.stamps.getD thread.next 0 = place + 1 then follow code text place fuel stack front
    else
      let ⟨threads, stamps⟩ := front
      let stamps := stamps.setIfInBounds thread.next (place + 1)
      match code.getD thread.next .accept with
      | .take _ _ => follow code text place fuel stack ⟨thread :: threads, stamps⟩
      | .accept => follow code text place fuel stack ⟨thread :: threads, stamps⟩
      | .assert assertion next =>
        if assertion.holds text place then
          follow code text place fuel ({ thread with next := next } :: stack) ⟨threads, stamps⟩
        else follow code text place fuel stack ⟨threads, stamps⟩
      | .record slot next =>
        follow code text place fuel (⟨next, thread.captures.record slot place⟩ :: stack)
          ⟨threads, stamps⟩
      | .branch first second =>
        follow code text place fuel
          ({ thread with next := first } :: { thread with next := second } :: stack)
          ⟨threads, stamps⟩

/-- Let each way take the character `c` before the place; the ways after one
that accepts are dropped, and its records are the best match so far. -/
def advance (code : Code) (text : Array Char) (c : Option Char) (place : Nat) :
    List Thread → Option Captures → Front → Option Captures × Front
  | [], best, front => (best, front)
  | thread :: rest, best, front =>
    match code.getD thread.next .accept with
    | .accept => (some thread.captures, front)
    | .take ranges next =>
      if c.any fun c => inRanges ranges c.toNat then
        let fuel := 2 * code.size + 2
        advance code text c place rest best
          (follow code text place fuel [⟨next, thread.captures⟩] front)
      else advance code text c place rest best front
    | _ => advance code text c place rest best front

/-- Find the preferred match among those that begin first, at the place or
after it; `left` counts the places that are left. -/
def search (p : Program) (text : Array Char) :
    Nat → Nat → Option Captures → Front → Option Captures
  | 0, _, best, _ => best
  | left + 1, place, best, front =>
    let front :=
      if best.isSome then front
      else follow p.code text place (2 * p.code.size + 2) [⟨p.entry, []⟩] front
    if best.isSome && front.threads.isEmpty then best
    else
      let (best, next) := advance p.code text text[place]? (place + 1) front.threads.reverse best
        ⟨[], front.stamps⟩
      search p text left (place + 1) best next

/-- The first match at the place or after it. -/
def Program.find? (p : Program) (text : Array Char) (place : Nat) : Option Captures :=
  if place ≤ text.size then
    search p text (text.size - place + 1) place none ⟨[], Array.replicate p.code.size 0⟩
  else none

/-! ## Results -/

/-- The text of a group that took part in the match. -/
def Captures.group? (captures : Captures) (text : Array Char) (n : Nat) : Option (List Char) := do
  let first ← captures.slot? (2 * n)
  let last ← captures.slot? (2 * n + 1)
  some (text.extract first last).toList

/-- The range of the whole match. -/
def Captures.span (captures : Captures) : Nat × Nat :=
  ((captures.slot? 0).getD 0, (captures.slot? 1).getD 0)

/-- The matches from the place on that do not overlap.  A match of the empty
text that stands where the match before it ended is passed over; `fuel` bounds
the matches. -/
def Program.matchesFrom (p : Program) (text : Array Char) :
    Nat → Nat → Option Nat → List Captures
  | 0, _, _ => []
  | fuel + 1, place, lastEnd =>
    let found := match p.find? text place with
      | none => none
      | some captures =>
        let (first, last) := captures.span
        if first = last && lastEnd == some last then p.find? text (place + 1) else some captures
    match found with
    | none => []
    | some captures => captures :: p.matchesFrom text fuel captures.span.2 (some captures.span.2)

/-- All matches that do not overlap, from left to right. -/
def Program.matches (p : Program) (text : Array Char) : List Captures :=
  p.matchesFrom text (text.size + 2) 0 none

end Folio.Regex
