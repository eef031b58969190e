import Folio.Text.Ascii
import Folio.Text.Search

/-!
# Folio.Toml.Quoted

Texts in quotation marks.  Between double marks a backslash escapes, between
single ones nothing does.  Three marks enclose a text of several lines, which
may end with one or two marks of its own.
-/

namespace Folio.Toml

open Folio.Text

/-- A character that no text contains: a control character that is no tab. -/
def isControl (c : Char) : Bool := (c.toNat < 32 && c != '\t') || c.toNat == 127

/-- A control character that does not end a line either. -/
def isLineControl (c : Char) : Bool := isControl c && c != '\n'

/-- The character that hexadecimal digits stand for. -/
def hexChar? (digits : List Char) : Option Char := do
  let values ← digits.mapM hexDigit?
  let n := values.foldl (fun n d => n * 16 + d) 0
  if n < 0xD800 ∨ (0xE000 ≤ n ∧ n < 0x110000) then some (Char.ofNat n) else none

/-- How many hexadecimal digits follow a letter that introduces them. -/
def hexCount : Char → Nat
  | 'x' => 2
  | 'u' => 4
  | 'U' => 8
  | _ => 0

/-- The character that an escape of one letter stands for. -/
def escaped? : Char → Option Char
  | 'b' => some '\x08'
  | 't' => some '\t'
  | 'n' => some '\n'
  | 'f' => some '\x0c'
  | 'r' => some '\r'
  | 'e' => some '\x1b'
  | '"' => some '"'
  | '\\' => some '\\'
  | _ => none

/-- The character that an escape stands for, and how many characters follow the
backslash. -/
def escape? : List Char → Option (Char × Nat)
  | [] => none
  | c :: rest =>
    let count := hexCount c
    if count = 0 then (escaped? c).map (·, 1)
    else if (rest.take count).length = count then
      (hexChar? (rest.take count)).map (·, count + 1)
    else none

/-- A blank or a part of the end of a line. -/
def isGap (c : Char) : Bool := c == ' ' || c == '\t' || c == '\n' || c == '\r'

/-- How many characters follow a backslash at the end of a line: the blanks and
line ends up to the next text. -/
def lineGap? (s : List Char) : Option Nat :=
  let gap := s.takeWhile isGap
  match gap.dropWhile fun c => c == ' ' || c == '\t' with
  | '\n' :: _ => some gap.length
  | '\r' :: '\n' :: _ => some gap.length
  | _ => none

/-- What follows three marks. -/
def afterThree? (mark : Char) (s : List Char) : Option (List Char) :=
  stripPrefix? [mark, mark, mark] s

/-- A text of one line in double marks, and what follows.  `skip` characters
belong to an escape that has been read. -/
def basic? (done : List Char) (skip : Nat) : List Char → Option (List Char × List Char)
  | [] => none
  | c :: rest =>
    match skip with
    | skip + 1 => basic? done skip rest
    | 0 =>
      if c = '"' then some (done.reverse, rest)
      else if c = '\\' then
        match escape? rest with
        | some (c, count) => basic? (c :: done) count rest
        | none => none
      else if isControl c then none
      else basic? (c :: done) 0 rest

/-- A text of one line in single marks, and what follows. -/
def literal? (s : List Char) : Option (List Char × List Char) := do
  let (text, rest) ← cut? ['\''] s
  guard (!text.any isControl)
  return (text, rest)

/-- The carriage return begins the end of a line. -/
def isLineEnd (c : Char) (rest : List Char) : Bool := c == '\r' && rest.head? == some '\n'

/-- Marks at the end of a text that belong to it, at most two, and what
follows. -/
def ownMarks (mark : Char) (s : List Char) : List Char × List Char :=
  let marks := (s.take 2).takeWhile (· == mark)
  (marks, s.drop marks.length)

/-- A text of several lines in double marks, and what follows. -/
def basicLines? (done : List Char) (skip : Nat) : List Char → Option (List Char × List Char)
  | [] => none
  | c :: rest =>
    match skip with
    | skip + 1 => basicLines? done skip rest
    | 0 =>
      match afterThree? '"' (c :: rest) with
      | some after =>
        let (marks, after) := ownMarks '"' after
        some (done.reverse ++ marks, after)
      | none =>
        if c = '\\' then
          match lineGap? rest, escape? rest with
          | some count, _ => basicLines? done count rest
          | none, some (c, count) => basicLines? (c :: done) count rest
          | none, none => none
        else if isLineControl c && !isLineEnd c rest then none
        else basicLines? (c :: done) 0 rest

/-- A text of several lines in single marks, and what follows. -/
def literalLines? (done : List Char) : List Char → Option (List Char × List Char)
  | [] => none
  | c :: rest =>
    match afterThree? '\'' (c :: rest) with
    | some after =>
      let (marks, after) := ownMarks '\'' after
      some (done.reverse ++ marks, after)
    | none =>
      if isLineControl c && !isLineEnd c rest then none
      else literalLines? (c :: done) rest

/-- A text without the line end that it begins with. -/
def withoutFirstEnd : List Char → List Char
  | '\n' :: rest => rest
  | '\r' :: '\n' :: rest => rest
  | s => s

/-- A text in quotation marks, and what follows; `none` where there is no
mark. -/
def quoted? (s : List Char) : Option (List Char × List Char) :=
  match afterThree? '"' s, afterThree? '\'' s with
  | some rest, _ => basicLines? [] 0 (withoutFirstEnd rest)
  | none, some rest => literalLines? [] (withoutFirstEnd rest)
  | none, none =>
    match s with
    | '"' :: rest => basic? [] 0 rest
    | '\'' :: rest => literal? rest
    | _ => none

end Folio.Toml
