import Folio.Text.Ascii
import Folio.Text.Blank
import Folio.Text.Search

/-!
# Folio.Script.Token

The tokens of scripts.  A template, which is a text between backticks, is cut
into its pieces: text, and insertions between `$\x7b` and `\x7d` that are code
again, so that a list of tokens holds templates within templates.
-/

namespace Folio.Script

open Folio.Text

/-- A token. -/
inductive Token where
  | int (n : Int)
  | text (s : String)
  | char (c : Char)
  /-- A name or a word of the language. -/
  | name (s : String)
  /-- An operator or a mark. -/
  | mark (s : String)
  | templateStart
  | templateText (s : String)
  | insertStart
  | insertEnd
  | templateEnd
deriving DecidableEq, Repr

namespace Token

/-! ## Names and numbers -/

/-- A character that a name can begin with. -/
def isNameStart (c : Char) : Bool := isAsciiLetter c || c == '_'

/-- A character that a name can hold. -/
def isNameChar (c : Char) : Bool := isAsciiAlnum c || c == '_'

/-- A number must follow a sign directly where an operand is expected: after
these tokens none is. -/
def endsOperand : Token → Bool
  | int _ | text _ | char _ | templateEnd => true
  | name s =>
    !(["return", "throw", "in", "if", "else", "while", "until", "switch", "case"].contains s)
  | mark s => s == ")" || s == "]" || s == "\x7d"
  | _ => false

/-- The greatest integer. -/
def maxInt : Int := 9223372036854775807

/-- The least integer. -/
def minInt : Int := -9223372036854775808

/-- The digits of a number with a base, without the underscores between
them. -/
def basedNumber? (base : Nat) (digits : List Char) : Option Nat :=
  let digits := digits.filter (· != '_')
  if digits.isEmpty || !digits.all fun c => (hexDigit? c).any (· < base) then none
  else some (digits.foldl (fun n c => n * base + (hexDigit? c).getD 0) 0)

/-- Read a number: its value, and what follows it.  A number with a base is a
pattern of 64 bits. -/
def readNumber (negative : Bool) (s : List Char) : Option (Int × List Char) :=
  let based := fun base rest => do
    let digits := rest.takeWhile isNameChar
    let n ← basedNumber? base digits
    if n ≥ Nat.pow 2 64 then none
    else
      let value : Int := if n ≥ Nat.pow 2 63 then (n : Int) - Int.pow 2 64 else n
      let value := if negative then -value else value
      if value > maxInt then none else some (value, rest.drop digits.length)
  match s with
  | '0' :: 'x' :: rest => based 16 rest
  | '0' :: 'X' :: rest => based 16 rest
  | '0' :: 'o' :: rest => based 8 rest
  | '0' :: 'O' :: rest => based 8 rest
  | '0' :: 'b' :: rest => based 2 rest
  | '0' :: 'B' :: rest => based 2 rest
  | _ => do
    let digits := s.takeWhile fun c => isAsciiDigit c || c == '_'
    let n ← basedNumber? 10 digits
    let value : Int := if negative then -(n : Int) else n
    let rest := s.drop digits.length
    let fractional := match rest with
      | '.' :: c :: _ => !isNameStart c && c != '.'
      | ['.'] => true
      | 'e' :: _ => true
      | _ => false
    if fractional || value < minInt || value > maxInt then none else some (value, rest)

/-! ## Texts -/

/-- The character that an escape stands for, and what follows it. -/
def readEscape : List Char → Option (Char × List Char)
  | [] => none
  | c :: rest =>
    let numbered := fun count => do
      let digits := rest.take count
      if digits.length != count || !digits.all fun d => (hexDigit? d).isSome then none
      else
        let n := digits.foldl (fun n d => n * 16 + (hexDigit? d).getD 0) 0
        if n.isValidChar then some (Char.ofNat n, rest.drop count) else none
    match c with
    | '\\' => some ('\\', rest)
    | 't' => some ('\t', rest)
    | 'n' => some ('\n', rest)
    | 'r' => some ('\r', rest)
    | '"' => some ('"', rest)
    | '\'' => some ('\'', rest)
    | 'x' => numbered 2
    | 'u' => numbered 4
    | 'U' => numbered 8
    | _ => none

/-- Read a text up to its quotation mark; a doubled mark stands for itself, and
a backslash at the end of a line joins it to the next. -/
def readQuoted (quote : Char) (done : List Char) : Nat → List Char → Option (List Char × List Char)
  | 0, _ => none
  | _, [] => none
  | fuel + 1, c :: rest =>
    if c = quote then
      match rest with
      | d :: after =>
        if d = quote then readQuoted quote (quote :: done) fuel after
        else some (done.reverse, rest)
      | [] => some (done.reverse, rest)
    else if c = '\\' then
      match rest with
      | '\n' :: after => readQuoted quote done fuel (after.dropWhile isBlank)
      | _ =>
        match readEscape rest with
        | some (c, after) => readQuoted quote (c :: done) fuel after
        | none => none
    else if c = '\n' then none
    else readQuoted quote (c :: done) fuel rest

/-- Read the text of a template up to an insertion or to its end; whether an
insertion follows, and the rest. -/
def readTemplateText (done : List Char) : Nat → List Char → Option (List Char × Bool × List Char)
  | 0, _ => none
  | _, [] => none
  | fuel + 1, c :: rest =>
    match c, rest with
    | '\x60', '\x60' :: after => readTemplateText ('\x60' :: done) fuel after
    | '\x60', _ => some (done.reverse, false, rest)
    | '$', '\x7b' :: after => some (done.reverse, true, after)
    | _, _ => readTemplateText (c :: done) fuel rest

/-- The text after a comment in which `depth + 1` comments are open.  A comment
that is not closed runs to the end. -/
def skipComment (depth : Nat) : List Char → List Char
  | [] => []
  | [_] => []
  | '/' :: '*' :: rest => skipComment (depth + 1) rest
  | '*' :: '/' :: rest =>
    match depth with
    | depth + 1 => skipComment depth rest
    | 0 => rest
  | _ :: rest => skipComment depth rest

/-! ## Marks -/

/-- The marks and operators, longer ones first. -/
def marks : List String :=
  ["**=", "<<=", ">>=", "..=", "===", "!==", "...", "++", "--", "**", "+=", "-=", "*=", "/=",
    "%=", "<<", ">>", "<=", ">=", "==", "!=", "&&", "||", "&=", "|=", "^=", "=>", "->", "<-",
    ":=", "::", "..", "?.", "?[", "??", "#\x7b", "+", "-", "*", "/", "%", "<", ">", "=", "!", "&",
    "|", "^", "(", ")", "[", "]", "\x7b", "\x7d", ",", ";", ":", "."]

/-- Marks that the language keeps for itself. -/
def reservedMarks : List String := ["===", "!==", "...", "++", "--", "->", "<-", ":="]

/-- The mark that the text begins with; `!in` ends as a name does. -/
def readMark (s : List Char) : Option (String × List Char) :=
  match s with
  | '!' :: 'i' :: 'n' :: rest =>
    if rest.head?.any isNameChar then some ("!", 'i' :: 'n' :: rest) else some ("!in", rest)
  | _ => marks.findSome? fun m => (stripPrefix? m.toList s).map fun rest => (m, rest)

/-! ## Scanning -/

/-- Scan the pieces of a template, and code where an insertion or the template
ends.  `inserts` holds, for each insertion that is open, how many braces are
open in it; `done` are the tokens, last first. -/
def scan (inTemplate : Bool) (inserts : List Nat) (done : List Token) :
    Nat → List Char → Option (List Token)
  | 0, _ => none
  | fuel + 1, s =>
    if inTemplate then
      match readTemplateText [] (s.length + 1) s with
      | none => none
      | some (content, true, rest) =>
        scan false (0 :: inserts) (.insertStart :: .templateText (String.ofList content) :: done)
          fuel rest
      | some (content, false, rest) =>
        scan false inserts (.templateEnd :: .templateText (String.ofList content) :: done) fuel rest
    else
      match s with
      | [] => if inserts.isEmpty then some done.reverse else none
      | '/' :: '/' :: rest => scan false inserts done fuel (rest.dropWhile (· != '\n'))
      | '/' :: '*' :: rest => scan false inserts done fuel (skipComment 0 rest)
      | '"' :: rest =>
        match readQuoted '"' [] (rest.length + 1) rest with
        | some (content, rest) =>
          scan false inserts (.text (String.ofList content) :: done) fuel rest
        | none => none
      | '\'' :: rest =>
        match readQuoted '\'' [] (rest.length + 1) rest with
        | some ([c], rest) => scan false inserts (.char c :: done) fuel rest
        | _ => none
      | '\x60' :: '\n' :: rest => scan true inserts (.templateStart :: done) fuel rest
      | '\x60' :: '\r' :: '\n' :: rest => scan true inserts (.templateStart :: done) fuel rest
      | '\x60' :: rest => scan true inserts (.templateStart :: done) fuel rest
      | c :: rest =>
        if isBlank c then scan false inserts done fuel rest
        else if isNameStart c then
          let name := (c :: rest).takeWhile isNameChar
          scan false inserts (.name (String.ofList name) :: done) fuel
            ((c :: rest).drop name.length)
        else if isAsciiDigit c then
          match readNumber false (c :: rest) with
          | some (n, rest) => scan false inserts (.int n :: done) fuel rest
          | none => none
        else if c = '-' && rest.head?.any isAsciiDigit && !done.head?.any endsOperand then
          match readNumber true rest with
          | some (n, rest) => scan false inserts (.int n :: done) fuel rest
          | none => none
        else
          match readMark (c :: rest) with
          | none => none
          | some (m, rest) =>
            if reservedMarks.contains m then none
            else if m = "\x7d" then
              match inserts with
              | 0 :: outer => scan true outer (.insertEnd :: done) fuel rest
              | (depth + 1) :: outer => scan false (depth :: outer) (.mark m :: done) fuel rest
              | [] => scan false [] (.mark m :: done) fuel rest
            else
              let inserts : List Nat := match inserts with
                | depth :: outer =>
                  if m = "\x7b" || m = "#\x7b" then (depth + 1) :: outer else inserts
                | [] => []
              scan false inserts (.mark m :: done) fuel rest

/-- The tokens of a script. -/
def ofScript? (s : String) : Option (List Token) :=
  let chars := s.toList
  scan false [] [] (2 * chars.length + 2) chars

end Token

end Folio.Script
