import Folio.Regex.Matching
import Folio.Regex.Reader

/-!
# Folio.Regex.Replace

Replacing the matches of a regular expression.  In a replacement `$1`, `$name`
and `${name}` stand for the text of a group, which is empty when the group does
not exist or took no part, and `$$` for a dollar sign.  A name without braces
is as long as possible.
-/

namespace Folio.Regex

open Folio.Text

/-! ## Replacements -/

/-- A piece of a replacement. -/
inductive Piece where
  | char (c : Char)
  | group (name : List Char)
deriving DecidableEq, Repr

/-- A character of a name without braces. -/
def isReferenceChar (c : Char) : Bool := isAsciiAlnum c || c == '_'

/-- Read what follows a dollar sign: the name of a group, and how many
characters it takes. -/
def reference? (s : List Char) : Option (List Char × Nat) :=
  match s with
  | '\x7b' :: rest =>
    (cut? ['\x7d'] rest).map fun (name, _) => (name, name.length + 2)
  | _ =>
    let name := s.takeWhile isReferenceChar
    if name.isEmpty then none else some (name, name.length)

/-- Read a replacement; the first `skipped` characters belong to the piece
before them. -/
def readPieces : Nat → List Char → List Piece
  | _, [] => []
  | skipped + 1, _ :: rest => readPieces skipped rest
  | 0, c :: rest =>
    if c = '$' then
      match rest with
      | '$' :: _ => .char '$' :: readPieces 1 rest
      | _ =>
        match reference? rest with
        | some (name, length) => .group name :: readPieces length rest
        | none => .char '$' :: readPieces 0 rest
    else .char c :: readPieces 0 rest

/-- The number of a group that a reference names. -/
def groupNumber? (names : List (List Char × Nat)) (name : List Char) : Option Nat :=
  match naturalUpTo? 0xFFFFFFFFFFFFFFFF name with
  | some n => some n
  | none => names.lookup name

/-- The text of a piece for a match. -/
def Piece.expand (names : List (List Char × Nat)) (text : Array Char) (captures : Captures) :
    Piece → List Char
  | char c => [c]
  | group name =>
    (((groupNumber? names name).bind (captures.group? text)).getD [])

/-! ## Replacing -/

/-- The text from the place on with the matches replaced. -/
def replaced (names : List (List Char × Nat)) (pieces : List Piece) (text : Array Char)
    (place : Nat) : List Captures → List Char
  | [] => (text.extract place text.size).toList
  | captures :: rest =>
    (text.extract place captures.span.1).toList ++
      pieces.flatMap (·.expand names text captures) ++
      replaced names pieces text captures.span.2 rest

/-- The program of a regular expression that is well formed and not too
large. -/
def program? (pattern : String) : Option Program := do
  let regex ← Expression.parse? pattern.toList
  if regex.pattern.cost ≤ costLimit then some regex.program else none

/-- The text with every match of the program replaced. -/
def Program.replaceAll (p : Program) (replacement text : String) : String :=
  let chars := text.toList.toArray
  String.ofList
    (replaced p.names (readPieces 0 replacement.toList) chars 0 (p.matches chars))

end Folio.Regex
