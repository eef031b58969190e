import Folio.Selector.Syntax
import Folio.Selector.Token

/-!
# Folio.Selector.Parser

Reading selectors.  `SelectorList.parse?` refuses what is no selector: an
empty member of a list or a chain, an unknown pseudo-class, any pseudo-element
and any namespace prefix.  Only the lists of `:is` and `:where` leave out
members that are malformed.
-/

namespace Folio.Selector

open Folio.Text

/-! ## Positions among siblings -/

/-- The text of the tokens that give a position, as written. -/
def rawText : List Token → List Char
  | [] => []
  | .leaf (.ident name) :: rest => name.toList ++ rawText rest
  | .leaf (.number raw) :: rest => raw.toList ++ rawText rest
  | .leaf .blank :: rest => ' ' :: rawText rest
  | .leaf (.delim c) :: rest => c :: rawText rest
  | _ :: rest => '?' :: rawText rest

/-- Digits with a sign. -/
def signedDigits? (sign : Int) (digits : List Char) : Option Int :=
  (natural? digits).map fun n => sign * n

/-- The summand after the letter `n`: nothing, or a sign and digits, with
blanks around the sign. -/
def summand? (s : List Char) : Option Int :=
  match s.dropWhile (· == ' ') with
  | [] => some 0
  | '+' :: rest => signedDigits? 1 (rest.dropWhile (· == ' '))
  | '-' :: rest => signedDigits? (-1) (rest.dropWhile (· == ' '))
  | _ => none

/-- A position `a * n + b` after its sign. -/
def unsignedPosition? (sign : Int) (s : List Char) : Option (Int × Int) :=
  let digits := s.takeWhile isAsciiDigit
  match s.drop digits.length with
  | [] => (signedDigits? sign digits).map fun b => (0, b)
  | 'n' :: rest =>
    let a := if digits.isEmpty then some sign else signedDigits? sign digits
    match a, summand? rest with
    | some a, some b => some (a, b)
    | _, _ => none
  | _ => none

/-- A position: `even`, `odd`, a number, or `a * n + b`. -/
def position? (tokens : List Token) : Option (Int × Int) :=
  let s := (trim (rawText tokens)).map lowerAscii
  if s = "even".toList then some (2, 0)
  else if s = "odd".toList then some (2, 1)
  else
    match s with
    | '+' :: rest => unsignedPosition? 1 rest
    | '-' :: rest => unsignedPosition? (-1) rest
    | s => unsignedPosition? 1 s

/-! ## Attributes -/

/-- Tokens without the blanks in front. -/
def skipBlanks : List Token → List Token
  | .leaf .blank :: rest => skipBlanks rest
  | tokens => tokens

/-- The name of an attribute, whether any namespace will do, and the rest. -/
def attributeName? : List Token → Option (Bool × String × List Token)
  | .leaf (.ident _) :: .leaf (.delim '|') :: .leaf (.delim '=') :: _ => none
  | .leaf (.ident _) :: .leaf (.delim '|') :: _ => none
  | .leaf (.ident name) :: rest => some (false, name, rest)
  | .leaf (.delim '*') :: .leaf (.delim '|') :: .leaf (.ident name) :: rest =>
    some (true, name, rest)
  | .leaf (.delim '|') :: .leaf (.ident name) :: rest => some (false, name, rest)
  | _ => none

/-- The comparison at the front of the tokens, and the rest. -/
def comparison? : List Token → Option (Comparison × List Token)
  | .leaf (.delim '=') :: rest => some (.equals, rest)
  | .leaf (.delim '~') :: .leaf (.delim '=') :: rest => some (.includes, rest)
  | .leaf (.delim '|') :: .leaf (.delim '=') :: rest => some (.dashMatch, rest)
  | .leaf (.delim '^') :: .leaf (.delim '=') :: rest => some (.startsWith, rest)
  | .leaf (.delim '$') :: .leaf (.delim '=') :: rest => some (.endsWith, rest)
  | .leaf (.delim '*') :: .leaf (.delim '=') :: rest => some (.contains, rest)
  | _ => none

/-- The letter case that follows a value. -/
def letterCase? (tokens : List Token) : Option LetterCase :=
  match skipBlanks tokens with
  | [] => some .byName
  | .leaf (.ident flag) :: rest =>
    if !(skipBlanks rest).isEmpty then none
    else if eqIgnoreCase flag "i" then some .insensitive
    else if eqIgnoreCase flag "s" then some .sensitive
    else none
  | _ => none

/-- The value of a condition on an attribute, and the rest. -/
def value? (tokens : List Token) : Option (String × List Token) :=
  match skipBlanks tokens with
  | .leaf (.ident text) :: rest => some (text, rest)
  | .leaf (.string text) :: rest => some (text, rest)
  | _ => none

/-- The name of an attribute that a dash match follows at once. -/
def dashName? : List Token → Option (String × List Token)
  | .leaf (.ident name) :: .leaf (.delim '|') :: .leaf (.delim '=') :: rest =>
    some (name, .leaf (.delim '|') :: .leaf (.delim '=') :: rest)
  | _ => none

/-- A condition on an attribute: what stands within square brackets. -/
def attribute? (inside : List Token) : Option Simple := do
  let tokens := skipBlanks inside
  let (anywhere, name, rest) ← match dashName? tokens with
    | some (name, rest) => some (false, name, rest)
    | none => attributeName? tokens
  match skipBlanks rest with
  | [] => return .hasAttribute anywhere name
  | rest =>
    let (comparison, rest) ← comparison? rest
    let (value, rest) ← value? rest
    return .attribute anywhere name comparison value (← letterCase? rest)

/-! ## Conditions -/

/-- A pseudo-class without arguments. -/
def plainClass? (name : String) : Option Simple :=
  match toLowerAscii name with
  | "first-child" => some (.nth false false 0 1)
  | "last-child" => some (.nth true false 0 1)
  | "only-child" => some (.only false)
  | "first-of-type" => some (.nth false true 0 1)
  | "last-of-type" => some (.nth true true 0 1)
  | "only-of-type" => some (.only true)
  | "root" => some .root
  | "empty" => some .empty
  | "scope" => some .scope
  | _ => none

/-- The conditions on the element's name at the front of the tokens, and the
rest. -/
def typeConditions? : List Token → Option (List Simple × List Token)
  | .leaf (.ident _) :: .leaf (.delim '|') :: _ => none
  | .leaf (.ident name) :: rest => some ([.type name], rest)
  | .leaf (.delim '*') :: .leaf (.delim '|') :: rest =>
    match rest with
    | .leaf (.ident name) :: rest => some ([.type name], rest)
    | .leaf (.delim '*') :: rest => some ([.universal], rest)
    | _ => none
  | .leaf (.delim '*') :: rest => some ([.universal], rest)
  | .leaf (.delim '|') :: rest =>
    match rest with
    | .leaf (.ident name) :: rest => some ([.noNamespace, .type name], rest)
    | .leaf (.delim '*') :: rest => some ([.noNamespace, .universal], rest)
    | _ => none
  | rest => some ([], rest)

/-- The combinator at the front of the tokens, and the rest.  Blanks alone are
one only when something follows. -/
def combinator? (tokens : List Token) : Option (Combinator × List Token) :=
  match tokens, skipBlanks tokens with
  | _, .leaf (.delim '>') :: rest => some (.child, rest)
  | _, .leaf (.delim '+') :: rest => some (.nextSibling, rest)
  | _, .leaf (.delim '~') :: rest => some (.laterSibling, rest)
  | .leaf .blank :: _, rest => if rest.isEmpty then none else some (.descendant, rest)
  | _, _ => none

/-- The members of a list that is parted by commas. -/
def members : List Token → List (List Token)
  | [] => [[]]
  | .leaf (.delim ',') :: rest => [] :: members rest
  | t :: rest =>
    match members rest with
    | [] => [[t]]
    | first :: others => (t :: first) :: others

/-- How the members of a list are read. -/
structure ListMode where
  /-- Malformed members are left out. -/
  forgiving : Bool
  /-- Members may begin with a combinator, and start from an anchor. -/
  relative : Bool
  /-- The list stands within a relative one, which cannot be nested. -/
  withinRelative : Bool

mutual

/-- A list of selectors; `fuel` bounds the nesting and the length. -/
def list? (mode : ListMode) (tokens : List Token) : Nat → Option (List Complex)
  | 0 => none
  | fuel + 1 => listMembers? mode (members tokens) fuel

/-- The selectors that the members of a list are. -/
def listMembers? (mode : ListMode) (parts : List (List Token)) : Nat → Option (List Complex)
  | 0 => none
  | fuel + 1 =>
    match parts with
    | [] => some []
    | part :: rest => do
      let others ← listMembers? mode rest fuel
      match chain? mode part fuel with
      | some selector => some (selector :: others)
      | none => if mode.forgiving then some others else none

/-- One member of a list. -/
def chain? (mode : ListMode) (tokens : List Token) : Nat → Option Complex
  | 0 => none
  | fuel + 1 =>
    let tokens := skipBlanks tokens
    if mode.relative then
      let (combinator, rest) := (combinator? tokens).getD (.descendant, tokens)
      match compound? mode (skipBlanks rest) fuel with
      | some (conditions, rest) =>
        chainRest? mode (.joined (.compound [.anchor]) combinator conditions) rest fuel
      | none => none
    else
      match compound? mode tokens fuel with
      | some (conditions, rest) => chainRest? mode (.compound conditions) rest fuel
      | none => none

/-- The rest of a chain, given what it begins with. -/
def chainRest? (mode : ListMode) (left : Complex) (tokens : List Token) : Nat → Option Complex
  | 0 => none
  | fuel + 1 =>
    match combinator? tokens with
    | some (combinator, rest) =>
      match compound? mode (skipBlanks rest) fuel with
      | some (conditions, rest) => chainRest? mode (.joined left combinator conditions) rest fuel
      | none => none
    | none => if (skipBlanks tokens).isEmpty then some left else none

/-- A compound selector, which has at least one condition, and the rest. -/
def compound? (mode : ListMode) (tokens : List Token) : Nat → Option (List Simple × List Token)
  | 0 => none
  | fuel + 1 =>
    match typeConditions? tokens with
    | none => none
    | some (types, rest) =>
      match conditions? mode rest fuel with
      | none => none
      | some (others, rest) =>
        if types.isEmpty && others.isEmpty then none else some (types ++ others, rest)

/-- Conditions other than on the name, as many as there are, and the rest. -/
def conditions? (mode : ListMode) (tokens : List Token) : Nat → Option (List Simple × List Token)
  | 0 => none
  | fuel + 1 =>
    let continueWith (condition : Option Simple) (rest : List Token) :=
      match condition, conditions? mode rest fuel with
      | some condition, some (others, rest) => some (condition :: others, rest)
      | _, _ => none
    match tokens with
    | .leaf (.hash name isName) :: rest =>
      if isName then continueWith (some (.id name)) rest else none
    | .leaf (.delim '.') :: .leaf (.ident name) :: rest => continueWith (some (.cls name)) rest
    | .leaf (.delim '.') :: _ => none
    | .group .square inside :: rest => continueWith (attribute? inside) rest
    | .leaf (.delim ':') :: .leaf (.ident name) :: rest => continueWith (plainClass? name) rest
    | .leaf (.delim ':') :: .call name inside :: rest =>
      continueWith (call? mode (toLowerAscii name) inside fuel) rest
    | .leaf (.delim ':') :: _ => none
    | rest => some ([], rest)

/-- A pseudo-class with arguments. -/
def call? (mode : ListMode) (name : String) (inside : List Token) : Nat → Option Simple
  | 0 => none
  | fuel + 1 =>
    let nth (fromEnd ofType : Bool) :=
      (position? inside).map fun (a, b) => Simple.nth fromEnd ofType a b
    match name with
    | "nth-child" => nth false false
    | "nth-last-child" => nth true false
    | "nth-of-type" => nth false true
    | "nth-last-of-type" => nth true true
    | "is" | "where" => (list? ⟨true, false, mode.withinRelative⟩ inside fuel).map .anyOf
    | "not" => (list? ⟨false, false, mode.withinRelative⟩ inside fuel).map .noneOf
    | "has" =>
      if mode.withinRelative then none
      else (list? ⟨false, true, true⟩ inside fuel).map .related
    | _ => none

end

/-- The selectors of a text. -/
def SelectorList.parse? (s : String) : Option SelectorList :=
  list? ⟨false, false, false⟩ (tokens s) (8 * s.length + 16)

end Folio.Selector
