import Folio.Event
import Folio.Markup.Reference
import Folio.Regex.Replace

/-!
# Folio.Typeset

Typesetting the markup of a chapter.  Line breaks and the ends of paragraphs
and divisions become a mark, scripts, styles and tags are left out, character
references are decoded, and every line that is not blank is indented.
-/

namespace Folio.Typeset

open Folio.Text

/-! ## Pieces of markup -/

/-- Exchange pieces of a text, from left to right.  `piece?` tells how many
characters a piece at the front of a text has; `skip` characters belong to a
piece that has been exchanged. -/
def exchangeFrom (piece? : List Char → Option Nat) (sub : List Char) (skip : Nat) :
    List Char → List Char
  | [] => []
  | c :: cs =>
    match skip with
    | skip + 1 => exchangeFrom piece? sub skip cs
    | 0 =>
      match piece? (c :: cs) with
      | some (n + 1) => sub ++ exchangeFrom piece? sub n cs
      | _ => c :: exchangeFrom piece? sub 0 cs

/-- Exchange every piece of a text, from left to right. -/
def exchange (piece? : List Char → Option Nat) (sub s : List Char) : List Char :=
  exchangeFrom piece? sub 0 s

/-- The character is the small letter in some case; the long s is a form of
the letter s. -/
def isLetter (small c : Char) : Bool := lowerAscii c == small || (small == 's' && c == 'ſ')

/-- What follows a mark in small letters, written in any case. -/
def stripMark? : List Char → List Char → Option (List Char)
  | [], s => some s
  | _ :: _, [] => none
  | m :: ms, c :: cs => if isLetter m c then stripMark? ms cs else none

/-- How many characters end a tag after its name: blanks, a slash where one is
allowed, and the angle bracket. -/
def tagEnd? (slash : Bool) (s : List Char) : Option Nat :=
  let blanks := s.takeWhile isBlank
  match s.drop blanks.length, slash with
  | '>' :: _, _ => some (blanks.length + 1)
  | '/' :: '>' :: _, true => some (blanks.length + 2)
  | _, _ => none

/-- The length of a mark and of the end of its tag, where the text begins with
them. -/
def marked? (mark : String) (slash : Bool) (s : List Char) : Option Nat := do
  let rest ← stripMark? mark.toList s
  let n ← tagEnd? slash rest
  return mark.length + n

/-- The length of a tag that ends a line: a line break, or the end of a
paragraph or a division. -/
def lineEnd? (s : List Char) : Option Nat :=
  if s.head? != some '<' then none
  else marked? "<br" true s <|> marked? "</p" false s <|> marked? "</div" false s

/-- The number of characters up to the end of the first closing tag; `count`
characters come before the text. -/
def closing? (mark : String) (count : Nat) : List Char → Option Nat
  | [] => none
  | c :: cs =>
    match if c = '<' then marked? mark false (c :: cs) else none with
    | some n => some (count + n)
    | none => closing? mark (count + 1) cs

/-- The length of an element whose content is not text, from its opening to
its closing tag. -/
def rawElement? (opening ending : String) (s : List Char) : Option Nat := do
  let rest ← stripMark? opening.toList s
  if rest.head?.any Unicode.isWord then none
  else closing? ending opening.length rest

/-- The length of a script or a style sheet. -/
def block? (s : List Char) : Option Nat :=
  if s.head? != some '<' then none
  else rawElement? "<script" "</script" s <|> rawElement? "<style" "</style" s

/-- The text without its tags: an angle bracket up to the next closing one. -/
def stripTags : List Char → List Char
  | [] => []
  | c :: rest =>
    if c = '<' then
      match _h : cut? ['>'] rest with
      | some (_, after) => stripTags after
      | none => c :: rest
    else c :: stripTags rest
termination_by s => s.length
decreasing_by
  · have := length_lt_of_cut? (by simp) _h
    simp only [List.length_cons]; omega
  · simp

/-! ## Lines -/

/-- Stands for the end of a line while tags are left out. -/
def lineMark : Char := '\uE000'

/-- What stands at the beginning of every line. -/
def indent : List Char := ['\u3000', '\u3000']

/-- The mark becomes a line feed, a space that does not break a space. -/
def settle (c : Char) : Char :=
  if c = lineMark then '\n' else if c = '\u00a0' then ' ' else c

/-- The lines of a text, trimmed, without the empty ones. -/
def fullLines (s : List Char) : List (List Char) :=
  ((lines s).map trim).filter (!·.isEmpty)

/-- The text with every line that is not blank indented. -/
def setLines (s : List Char) : List Char :=
  ['\n'].intercalate ((fullLines s).map (indent ++ ·))

/-- The text of markup, typeset. -/
def plain (body : List Char) : List Char :=
  let marked := exchange lineEnd? [lineMark] body
  let text := stripTags (exchange block? [] marked)
  setLines ((Markup.decodeClosed text).map settle)

/-! ## Replacements -/

/-- Apply a replacement: a pattern, and after `##` what its matches become.  One
with a blank pattern does nothing, and one whose pattern is malformed is
reported. -/
def replace (body rule : String) : Traced String :=
  let rule := (stripPrefix? ['#', '#'] rule.toList).getD rule.toList
  let (pattern, replacement) := (cut? ['#', '#'] rule).getD (rule, [])
  let pattern := String.ofList pattern
  if isBlankText pattern then pure body
  else
    match Regex.program? pattern with
    | some program => pure (program.replaceAll (String.ofList replacement) body)
    | none => do
      Traced.emit (.badReplacement pattern)
      pure body

/-- Apply replacements one after the other. -/
def replaceEach (body : String) : List String → Traced String
  | [] => pure body
  | rule :: rest => do
    let body ← replace body rule
    replaceEach body rest

/-- Typeset the markup of a chapter after the replacements of its source. -/
def typeset (body : String) (rules : List String) : Traced String := do
  let body ← replaceEach body rules
  pure (String.ofList (plain body.toList))

end Folio.Typeset
