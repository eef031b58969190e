import Folio.Regex.CharSet

/-!
# Folio.Regex.Syntax

Regular expressions as trees.  Flags are resolved when an expression is read:
a letter read without regard to case is the set of its forms, and each
assertion names its rule.
-/

namespace Folio.Regex

/-- Which characters belong to words: those of ASCII alone, or all. -/
inductive WordRule where
  | ascii
  | unicode
deriving DecidableEq, Repr

/-- What ends a line: a line feed, or also a carriage return. -/
inductive LineRule where
  | lineFeed
  | carriageReturn
deriving DecidableEq, Repr

/-- An assertion on the place between two characters. -/
inductive Assertion where
  | textStart
  | textEnd
  | lineStart (rule : LineRule)
  | lineEnd (rule : LineRule)
  | wordBoundary (rule : WordRule)
  | noWordBoundary (rule : WordRule)
  | wordStart (rule : WordRule)
  | wordEnd (rule : WordRule)
  /-- No character of a word stands before the place. -/
  | wordStartHalf (rule : WordRule)
  /-- No character of a word stands after the place. -/
  | wordEndHalf (rule : WordRule)
deriving DecidableEq, Repr

/-- A regular expression. -/
inductive Pattern where
  | empty
  | set (chars : CharSet)
  /-- A class in brackets; how deep it is nested, itself included. -/
  | bracketed (levels : Nat) (chars : CharSet)
  | assert (assertion : Assertion)
  /-- `least` up to `most` times, without `most` any number of times; a greedy
  repetition tries more before fewer. -/
  | repeated (least : Nat) (most : Option Nat) (greedy : Bool) (body : Pattern)
  /-- A group; one with a number records where it matched. -/
  | group (number : Option Nat) (body : Pattern)
  | sequence (parts : List Pattern)
  /-- The alternatives, the earlier preferred. -/
  | choice (parts : List Pattern)
deriving Repr

namespace Pattern

mutual

/-- How deep groups, repetitions, sequences, choices and classes in brackets
are nested. -/
def depth : Pattern → Nat
  | empty | set _ | assert _ => 0
  | bracketed levels _ => levels
  | repeated _ _ _ body => body.depth + 1
  | group _ body => body.depth + 1
  | sequence parts => depthAll parts + 1
  | choice parts => depthAll parts + 1

/-- The greatest depth of several expressions. -/
def depthAll : List Pattern → Nat
  | [] => 0
  | p :: rest => max p.depth (depthAll rest)

end

mutual

/-- The expression can match the empty text. -/
def canBeEmpty : Pattern → Bool
  | empty | assert _ => true
  | set _ | bracketed _ _ => false
  | repeated least _ _ body => least == 0 || body.canBeEmpty
  | group _ body => body.canBeEmpty
  | sequence parts => allCanBeEmpty parts
  | choice parts => anyCanBeEmpty parts

/-- Each of the expressions can match the empty text. -/
def allCanBeEmpty : List Pattern → Bool
  | [] => true
  | p :: rest => p.canBeEmpty && allCanBeEmpty rest

/-- One of the expressions can match the empty text. -/
def anyCanBeEmpty : List Pattern → Bool
  | [] => false
  | p :: rest => p.canBeEmpty || anyCanBeEmpty rest

end

mutual

/-- The expression matches nothing but the empty text. -/
def isAlwaysEmpty : Pattern → Bool
  | empty | assert _ => true
  | set _ | bracketed _ _ => false
  | repeated _ most _ body => most == some 0 || body.isAlwaysEmpty
  | group _ body => body.isAlwaysEmpty
  | sequence parts => areAlwaysEmpty parts
  | choice parts => areAlwaysEmpty parts

/-- Each of the expressions matches nothing but the empty text. -/
def areAlwaysEmpty : List Pattern → Bool
  | [] => true
  | p :: rest => p.isAlwaysEmpty && areAlwaysEmpty rest

end

end Pattern

/-- A regular expression with the names of its groups. -/
structure Expression where
  pattern : Pattern
  /-- Numbers of the named groups. -/
  names : List (List Char × Nat)

end Folio.Regex
