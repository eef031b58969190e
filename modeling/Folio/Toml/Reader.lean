import Folio.Text.Blank
import Folio.Toml.Quoted
import Folio.Toml.Scalar

/-!
# Folio.Toml.Reader

Reading TOML documents, line by line: a header, or a key and its value.  Arrays
and inline tables may go over several lines.
-/

namespace Folio.Toml

open Folio.Text

/-! ## Blanks, comments and line ends -/

/-- A blank within a line. -/
def isSpace (c : Char) : Bool := c == ' ' || c == '\t'

/-- A text without the blanks before it. -/
def skipSpaces (s : List Char) : List Char := s.dropWhile isSpace

/-- What follows the blanks, the comments and the line ends at the beginning of
a text. -/
def skipGap? (inComment : Bool) : List Char → Option (List Char)
  | [] => some []
  | '\n' :: rest => skipGap? false rest
  | '\r' :: '\n' :: rest => skipGap? false rest
  | c :: rest =>
    if inComment then if isControl c then none else skipGap? true rest
    else if isSpace c then skipGap? false rest
    else if c = '#' then skipGap? true rest
    else some (c :: rest)

/-- What follows the end of a line, which may have blanks and a comment before
it. -/
def afterLine? (s : List Char) : Option (List Char) :=
  let s := skipSpaces s
  let comment := if s.head? == some '#' then s.takeWhile fun c => !isGap c || isSpace c else []
  if comment.any isControl then none
  else
    match s.drop comment.length with
    | [] => some []
    | '\n' :: rest => some rest
    | '\r' :: '\n' :: rest => some rest
    | _ => none

/-! ## Keys -/

/-- A character of a key without quotation marks. -/
def isKeyChar (c : Char) : Bool := isAsciiAlnum c || c == '-' || c == '_'

/-- A part of a key, and what follows. -/
def keyPart? (s : List Char) : Option (String × List Char) :=
  match s with
  | '"' :: rest => (basic? [] 0 rest).map fun (key, rest) => (String.ofList key, rest)
  | '\'' :: rest => (literal? rest).map fun (key, rest) => (String.ofList key, rest)
  | s =>
    let key := s.takeWhile isKeyChar
    if key.isEmpty then none else some (String.ofList key, s.drop key.length)

/-- The further parts of a key, and what follows the blanks after it. -/
def keyParts? (fuel : Nat) (s : List Char) : Option (List String × List Char) :=
  match fuel, skipSpaces s with
  | fuel + 1, '.' :: rest => do
    let (part, rest) ← keyPart? (skipSpaces rest)
    let (parts, rest) ← keyParts? fuel rest
    return (part :: parts, rest)
  | 0, '.' :: _ => none
  | _, rest => some ([], rest)

/-- A key: the way to its last part, that part, and what follows. -/
def key? (s : List Char) : Option (List String × String × List Char) := do
  let (first, rest) ← keyPart? (skipSpaces s)
  let (others, rest) ← keyParts? rest.length rest
  let parts := first :: others
  return (parts.dropLast, parts.getLastD first, rest)

/-! ## Values -/

/-- A character of a value without quotation marks. -/
def isScalarChar (c : Char) : Bool :=
  !isGap c && !(",[]\x7b\x7d#=\"'".toList.contains c)

/-- A value without quotation marks, and what follows.  A blank may stand
between a date and a time. -/
def scalarAt? (s : List Char) : Option (Value × List Char) :=
  let text := s.takeWhile isScalarChar
  let rest := s.drop text.length
  let time := match rest with
    | ' ' :: rest => if rest.head?.any isAsciiDigit then rest.takeWhile isScalarChar else []
    | _ => []
  if afterDate? text = some [] ∧ time ≠ [] then
    (scalar? (text ++ ' ' :: time)).map (·, rest.drop (time.length + 1))
  else (scalar? text).map (·, rest)

mutual

/-- A value, and what follows.  The fuel bounds the number of characters. -/
def value? (fuel : Nat) (s : List Char) : Option (Value × List Char) :=
  match fuel with
  | 0 => none
  | fuel + 1 =>
    match s with
    | '[' :: rest => do
      let (items, rest) ← items? fuel (← skipGap? false rest)
      return (.array items, rest)
    | '\x7b' :: rest => do
      let (entries, rest) ← entries? fuel [] (← skipGap? false rest)
      return (.table .inline entries, rest)
    | '"' :: _ | '\'' :: _ =>
      (quoted? s).map fun (text, rest) => (.string (String.ofList text), rest)
    | _ => scalarAt? s

/-- The items of an array up to its end. -/
def items? (fuel : Nat) (s : List Char) : Option (List Value × List Char) :=
  match fuel with
  | 0 => none
  | fuel + 1 =>
    match s with
    | ']' :: rest => some ([], rest)
    | s => do
      let (item, rest) ← value? fuel s
      match ← skipGap? false rest with
      | ',' :: rest =>
        let (items, rest) ← items? fuel (← skipGap? false rest)
        return (item :: items, rest)
      | ']' :: rest => return ([item], rest)
      | _ => none

/-- The entries of an inline table up to its end. -/
def entries? (fuel : Nat) (entries : Entries) (s : List Char) : Option (Entries × List Char) :=
  match fuel with
  | 0 => none
  | fuel + 1 =>
    match s with
    | '\x7d' :: rest => some (entries, rest)
    | s => do
      let (path, key, rest) ← key? s
      let rest ← stripPrefix? ['='] rest
      let (value, rest) ← value? fuel (skipSpaces rest)
      let entries ← Entries.set? path key value .inline entries
      match ← skipGap? false rest with
      | ',' :: rest => entries? fuel entries (← skipGap? false rest)
      | '\x7d' :: rest => some (entries, rest)
      | _ => none

end

/-! ## Lines -/

/-- A document as far as it has been read: its entries, and the path of the
last header. -/
structure Document where
  entries : Entries := []
  path : List String := []

/-- Add a value under a key to the table of the last header. -/
def Document.set? (d : Document) (path : List String) (key : String) (value : Value) :
    Option Document := do
  let entries ← Entries.changeAt? false (Entries.set? path key value) d.path .headed d.entries
  return { d with entries }

/-- Read a line that is not empty, and what follows. -/
def line? (d : Document) (s : List Char) : Option (Document × List Char) :=
  match s with
  | '[' :: '[' :: rest => do
    let (path, key, rest) ← key? rest
    let rest ← stripPrefix? [']', ']'] rest
    return (⟨← Entries.headItem? path key d.entries, path ++ [key]⟩, ← afterLine? rest)
  | '[' :: rest => do
    let (path, key, rest) ← key? rest
    let rest ← stripPrefix? [']'] rest
    return (⟨← Entries.head? path key d.entries, path ++ [key]⟩, ← afterLine? rest)
  | s => do
    let (path, key, rest) ← key? s
    let rest ← stripPrefix? ['='] rest
    let (value, rest) ← value? (rest.length + 1) (skipSpaces rest)
    return (← d.set? path key value, ← afterLine? rest)

/-- Read lines.  The fuel bounds their number. -/
def lines? (fuel : Nat) (d : Document) (s : List Char) : Option Document :=
  match fuel with
  | 0 => none
  | fuel + 1 => do
    match ← skipGap? false s with
    | [] => some d
    | s =>
      let (d, rest) ← line? d s
      lines? fuel d rest

/-- A text without the mark that tells the order of its bytes. -/
def withoutMark : List Char → List Char
  | '\uFEFF' :: rest => rest
  | s => s

/-- Read a document. -/
def parse? (s : String) : Option Value :=
  let chars := withoutMark s.toList
  (lines? (chars.length + 1) {} chars).map fun d => .table .headed d.entries

end Folio.Toml
