import Folio.Text.Ascii
import Folio.Text.Blank

/-!
# Folio.Selector.Token

Selector texts as tokens.  Brackets are gathered with what they hold; one that
is never closed ends with the text, and so does a quoted string.
-/

namespace Folio.Selector

open Folio.Text

/-- The kinds of brackets. -/
inductive Bracket where
  | round
  | square
  | curly
deriving DecidableEq, Repr

/-- A token before brackets are gathered. -/
inductive Lexeme where
  | ident (name : String)
  /-- A name and the parenthesis that follows it. -/
  | function (name : String)
  /-- A name after a number sign, and whether it could stand by itself. -/
  | hash (name : String) (isName : Bool)
  | string (text : String)
  /-- A number with its unit, as written. -/
  | number (raw : String)
  | blank
  | delim (c : Char)
  | opening (b : Bracket)
  | closing (b : Bracket)
  | malformed
deriving DecidableEq, Repr

/-- A token. -/
inductive Token where
  | leaf (lexeme : Lexeme)
  | call (name : String) (inside : List Token)
  | group (bracket : Bracket) (inside : List Token)
deriving Repr

/-! ## Lexemes -/

/-- A character that may begin a name. -/
def isNameStart (c : Char) : Bool := isAsciiLetter c || c == '_' || c.toNat ≥ 128 || c.toNat == 0

/-- A character that may continue a name. -/
def isNameChar (c : Char) : Bool := isNameStart c || isAsciiDigit c || c == '-'

/-- A line end. -/
def isLineEnd (c : Char) : Bool := c == '\n' || c == '\r' || c == '\x0c'

/-- An escape begins here: a backslash that no line end follows. -/
def startsEscape : List Char → Bool
  | '\\' :: c :: _ => !isLineEnd c
  | ['\\'] => true
  | _ => false

/-- A name begins here. -/
def startsName : List Char → Bool
  | '-' :: c :: rest => isNameStart c || c == '-' || startsEscape (c :: rest)
  | c :: rest => isNameStart c || startsEscape (c :: rest)
  | [] => false

/-- A number begins here. -/
def startsNumber (s : List Char) : Bool :=
  let unsigned := match s with
    | '+' :: rest => rest
    | '-' :: rest => rest
    | s => s
  match unsigned with
  | '.' :: c :: _ => isAsciiDigit c
  | c :: _ => isAsciiDigit c
  | [] => false

/-- The character with a number, or the replacement character. -/
def characterOf (n : Nat) : Char :=
  if n = 0 ∨ n > 0x10FFFF ∨ (0xD800 ≤ n ∧ n ≤ 0xDFFF) then '\uFFFD' else Char.ofNat n

/-- The character of an escape after its backslash, and how many characters
the escape has. -/
def escaped (s : List Char) : Char × Nat :=
  let digits := (s.take 6).takeWhile fun c => (hexDigit? c).isSome
  if digits.isEmpty then
    match s with
    | c :: _ => (c, 1)
    | [] => ('\uFFFD', 0)
  else
    let value := digits.foldl (fun n c => n * 16 + (hexDigit? c).getD 0) 0
    let after := match s.drop digits.length with
      | '\r' :: '\n' :: _ => 2
      | c :: _ => if isAsciiBlank c then 1 else 0
      | [] => 0
    (characterOf value, digits.length + after)

/-- The characters of a name and how many characters of the text they are;
`skip` characters belong to an escape. -/
def nameFrom (skip : Nat) : List Char → List Char × Nat
  | [] => ([], 0)
  | c :: cs =>
    match skip with
    | skip + 1 =>
      let (name, n) := nameFrom skip cs
      (name, n + 1)
    | 0 =>
      if isNameChar c then
        let (name, n) := nameFrom 0 cs
        ((if c.toNat = 0 then '\uFFFD' else c) :: name, n + 1)
      else if startsEscape (c :: cs) then
        let (d, length) := escaped cs
        let (name, n) := nameFrom length cs
        (d :: name, n + 1)
      else ([], 0)

/-- The characters of a quoted string and how many characters of the text it
has, the closing mark included; nothing when a line end breaks it off. -/
def quotedFrom (quote : Char) (skip : Nat) : List Char → Option (List Char × Nat)
  | [] => some ([], 0)
  | c :: cs =>
    match skip with
    | skip + 1 => (quotedFrom quote skip cs).map fun (text, n) => (text, n + 1)
    | 0 =>
      if c = quote then some ([], 1)
      else if isLineEnd c then none
      else if c = '\\' then
        match cs with
        | [] => some ([], 1)
        | '\r' :: '\n' :: _ => (quotedFrom quote 2 cs).map fun (text, n) => (text, n + 1)
        | d :: _ =>
          if isLineEnd d then (quotedFrom quote 1 cs).map fun (text, n) => (text, n + 1)
          else
            let (e, length) := escaped cs
            (quotedFrom quote length cs).map fun (text, n) => (e :: text, n + 1)
      else
        (quotedFrom quote 0 cs).map fun (text, n) =>
          ((if c.toNat = 0 then '\uFFFD' else c) :: text, n + 1)

/-- The number of characters of a number and its unit. -/
def numberLength (s : List Char) : Nat :=
  let sign := match s with
    | '+' :: _ => 1
    | '-' :: _ => 1
    | _ => 0
  let whole := ((s.drop sign).takeWhile isAsciiDigit).length
  let rest := s.drop (sign + whole)
  let fraction := match rest with
    | '.' :: digits =>
      let n := (digits.takeWhile isAsciiDigit).length
      if n = 0 then 0 else n + 1
    | _ => 0
  let rest := rest.drop fraction
  let unit := match rest with
    | '%' :: _ => 1
    | rest => if startsName rest then (nameFrom 0 rest).2 else 0
  sign + whole + fraction + unit

/-- The length of a comment after the mark that opens it. -/
def commentLength : List Char → Nat
  | [] => 0
  | '*' :: '/' :: _ => 2
  | _ :: cs => commentLength cs + 1

/-- The lexeme that begins with a character, and how many more characters it
has; a comment is none. -/
def lexemeAt (c : Char) (cs : List Char) : Option Lexeme × Nat :=
  let s := c :: cs
  if isAsciiBlank c then (some .blank, (cs.takeWhile isAsciiBlank).length)
  else if c = '"' ∨ c = '\'' then
    match quotedFrom c 0 cs with
    | some (text, n) => (some (.string (String.ofList text)), n)
    | none => (some .malformed, cs.length)
  else if startsNumber s then
    let n := numberLength s
    (some (.number (String.ofList (s.take n))), n - 1)
  else if startsName s then
    let (name, n) := nameFrom 0 s
    match s.drop n with
    | '(' :: _ => (some (.function (String.ofList name)), n)
    | _ => (some (.ident (String.ofList name)), n - 1)
  else
    match c with
    | '#' =>
      match cs with
      | d :: _ =>
        if isNameChar d || startsEscape cs then
          let (name, n) := nameFrom 0 cs
          (some (.hash (String.ofList name) (startsName cs)), n)
        else (some (.delim '#'), 0)
      | [] => (some (.delim '#'), 0)
    | '/' =>
      match cs with
      | '*' :: rest => (none, commentLength rest + 1)
      | _ => (some (.delim '/'), 0)
    | '(' => (some (.opening .round), 0)
    | '[' => (some (.opening .square), 0)
    | '{' => (some (.opening .curly), 0)
    | ')' => (some (.closing .round), 0)
    | ']' => (some (.closing .square), 0)
    | '}' => (some (.closing .curly), 0)
    | c => (some (.delim c), 0)

/-- The lexemes of a text; `skip` characters belong to one that was found. -/
def lexemesFrom (skip : Nat) : List Char → List Lexeme
  | [] => []
  | c :: cs =>
    match skip with
    | skip + 1 => lexemesFrom skip cs
    | 0 =>
      match lexemeAt c cs with
      | (some lexeme, n) => lexeme :: lexemesFrom n cs
      | (none, n) => lexemesFrom n cs

/-! ## Brackets -/

/-- An open bracket or function with what precedes it, the latest first. -/
structure OpenGroup where
  before : List Token
  name : Option String
  bracket : Bracket

/-- Close the innermost bracket around what it holds. -/
def closeGroup (inside : List Token) (g : OpenGroup) : List Token :=
  match g.name with
  | some name => .call name inside.reverse :: g.before
  | none => .group g.bracket inside.reverse :: g.before

/-- Gather lexemes into tokens; `done` holds the tokens of the innermost open
bracket, the latest first. -/
def gather (stack : List OpenGroup) (done : List Token) : List Lexeme → List Token
  | [] => (stack.foldl closeGroup done).reverse
  | lexeme :: rest =>
    match lexeme with
    | .opening b => gather (⟨done, none, b⟩ :: stack) [] rest
    | .function name => gather (⟨done, some name, .round⟩ :: stack) [] rest
    | .closing b =>
      match stack with
      | g :: outer =>
        if g.bracket = b then gather outer (closeGroup done g) rest
        else gather stack (.leaf (.closing b) :: done) rest
      | [] => gather stack (.leaf (.closing b) :: done) rest
    | lexeme => gather stack (.leaf lexeme :: done) rest

/-- The tokens of a text. -/
def tokens (s : String) : List Token := gather [] [] (lexemesFrom 0 s.toList)

end Folio.Selector
