import Folio.Script.Syntax
import Folio.Script.Token

/-!
# Folio.Script.Reader

Reading scripts.  Operators bind as their strengths tell, statements are parted
by semicolons unless a block ends them, and functions are gathered beside the
body.  Reading fails for malformed scripts, for expressions nested too deep,
and for assignments to names that the script declared constant.
-/

namespace Folio.Script

/-! ## Progress -/

/-- What remains to be read, and what has been declared. -/
structure ReadState where
  tokens : List Token
  /-- Names in scope, innermost first, each with whether it is constant. -/
  names : List (String × Bool)
  functions : List Function

/-- A reader. -/
abbrev Read (α : Type) := StateT ReadState Option α

namespace Read

/-- No script has this form. -/
def fail {α : Type} : Read α := fun _ => none

/-- The next token, if there is one. -/
def peek? : Read (Option Token) := do return (← get).tokens.head?

/-- Leave the next token behind. -/
def skip : Read Unit := modify fun s => { s with tokens := s.tokens.drop 1 }

/-- Leave a mark behind if it comes next; whether it did. -/
def accept (mark : String) : Read Bool := do
  if (← peek?) == some (.mark mark) then
    skip
    return true
  else return false

/-- Leave a word behind if it comes next; whether it did. -/
def acceptWord (word : String) : Read Bool := do
  if (← peek?) == some (.name word) then
    skip
    return true
  else return false

/-- Leave a mark behind that must come next. -/
def expect (mark : String) : Read Unit := do
  if ← accept mark then return () else fail

/-- Leave a word behind that must come next. -/
def expectWord (word : String) : Read Unit := do
  if ← acceptWord word then return () else fail

end Read

open Read

/-- Where a piece of a script stands. -/
structure ReadPlace where
  /-- How deep it is nested. -/
  level : Nat
  /-- How deep it may be nested. -/
  limit : Nat
  inLoop : Bool
  /-- Functions may be declared here. -/
  outermost : Bool

namespace ReadPlace

/-- One level deeper. -/
def deeper (p : ReadPlace) : ReadPlace := { p with level := p.level + 1, outermost := false }

/-- The place is not nested too deep. -/
def check (p : ReadPlace) : Read Unit := if p.level ≤ p.limit then return () else fail

/-- How deep expressions of a script may be nested. -/
def scriptLimit : Nat := 64

/-- How deep expressions of a function may be nested. -/
def functionLimit : Nat := 32

/-- The outermost level of a script. -/
def script : ReadPlace := ⟨0, scriptLimit, false, true⟩

/-- The outermost level of a function. -/
def function : ReadPlace := ⟨0, functionLimit, false, false⟩

end ReadPlace

/-! ## Words and operators -/

/-- Words of the language, which name nothing. -/
def languageWords : List String :=
  ["let", "const", "if", "else", "switch", "do", "while", "until", "loop", "for", "in", "continue",
    "break", "return", "throw", "try", "catch", "fn", "private", "import", "export", "as",
    "true", "false", "_", "var", "static", "shared", "goto", "exit", "match", "case", "public",
    "protected", "new", "use", "with", "is", "module", "package", "super", "spawn", "thread",
    "go", "sync", "async", "await", "yield", "default", "void", "null", "nil"]

/-- A name that variables and functions can have. -/
def isUsableName (s : String) : Bool := !languageWords.contains s

/-- How strongly an operator binds. -/
def strength? : Token → Option (String × Nat)
  | .mark m =>
    let n := match m with
      | "||" | "|" | "^" => 30
      | "&&" | "&" => 60
      | "==" | "!=" => 90
      | "!in" => 110
      | "<" | "<=" | ">" | ">=" => 130
      | "??" => 135
      | ".." | "..=" => 140
      | "+" | "-" => 150
      | "*" | "/" | "%" => 180
      | "**" => 190
      | "<<" | ">>" => 210
      | _ => 0
    if n = 0 then none else some (m, n)
  | .name "in" => some ("in", 110)
  | _ => none

/-- The expression of an operator between two others. -/
def joinOperands (operator : String) (left right : Expr) : Expr :=
  match operator with
  | "&&" => .both left right
  | "||" => .either left right
  | "??" => .orElse left right
  | "in" => .call "contains" [right, left]
  | "!in" => .call "!" [.call "contains" [right, left]]
  | _ => .call operator [left, right]

/-- The operator within a mark of assignment; nothing within `=` itself. -/
def assignment? : Token → Option (Option String)
  | .mark m =>
    if m = "=" then some none
    else if ["+=", "-=", "*=", "/=", "%=", "**=", "<<=", ">>=", "&=", "|=", "^="].contains m then
      some (some (String.ofList m.toList.dropLast))
    else none
  | _ => none

/-- A statement of this form ends without a semicolon. -/
def endsItself : Expr → Bool
  | .branch _ _ _ | .choose _ _ | .block _ | .whileLoop _ _ _ | .forLoop _ _ _ _
  | .attempt _ _ _ => true
  | _ => false

/-- The constant that an expression is. -/
def constant? : Expr → Option Literal
  | .literal l => some l
  | _ => none

/-- The variable that an assignment changes. -/
def assignedName? : Expr → Option String
  | .variable name => some name
  | .chain (.variable name) _ => some name
  | _ => none

/-- The expression can stand on the left of an assignment. -/
def isAssignable : Expr → Bool
  | .variable _ => true
  | .chain _ links =>
    match links.getLast? with
    | some (.index _) => true
    | some (.member _) => true
    | _ => false
  | _ => false

/-- Add a link to an expression. -/
def linkTo (root : Expr) (link : Link) : Expr :=
  match root with
  | .chain root links => .chain root (links ++ [link])
  | root => .chain root [link]

/-! ## Small readers -/

/-- Read a name that can be used. -/
def readName : Read String := do
  match ← peek? with
  | some (.name s) =>
    if isUsableName s then
      skip
      return s
    else fail
  | _ => fail

/-- Read the name of a member or a method. -/
def readMemberName : Read String := do
  match ← peek? with
  | some (.name s) =>
    skip
    return s
  | _ => fail

/-- Read names parted by commas up to a mark. -/
def readNames (mark : String) : Nat → Read (List String)
  | 0 => fail
  | fuel + 1 => do
    if ← accept mark then return []
    let name ← readName
    if ← accept "," then
      let rest ← readNames mark fuel
      return name :: rest
    expect mark
    return [name]

/-- Note a declaration. -/
def declareName (name : String) (constant : Bool) : Read Unit :=
  modify fun s => { s with names := (name, constant) :: s.names }

/-- Read something within a scope of its own. -/
def withinScope {α : Type} (r : Read α) : Read α := do
  let names := (← get).names
  let a ← r
  modify fun s => { s with names }
  return a

/-- Read something that sees no names around it. -/
def isolated {α : Type} (params : List String) (r : Read α) : Read α := do
  let names := (← get).names
  modify fun s => { s with names := params.map fun p => (p, false) }
  let a ← r
  modify fun s => { s with names }
  return a

/-- Read the bounds of a range after its first: the mark, and the end. -/
def readRangeEnd (low : Int) : Read CasePattern := do
  let inclusive ← accept "..="
  if !inclusive then expect ".."
  match ← peek? with
  | some (.int high) =>
    skip
    return .between low high inclusive
  | _ => fail

/-! ## Expressions and statements -/

mutual

/-- Read an expression. -/
def readExpr (place : ReadPlace) : Nat → Read Expr
  | 0 => fail
  | fuel + 1 => do
    place.deeper.check
    let left ← readUnary place.deeper fuel
    readOperators place.deeper 1 left fuel

/-- Read the operators after an operand that bind at least as strongly as
`least`. -/
def readOperators (place : ReadPlace) (least : Nat) (left : Expr) : Nat → Read Expr
  | 0 => fail
  | fuel + 1 => do
    match (← peek?).bind strength? with
    | none => return left
    | some (operator, n) =>
      if n < least then return left
      skip
      let right ← readUnary place fuel
      let next := ((← peek?).bind strength?).map (·.2)
      let binds := next.any fun m => m > n || (m == n && operator == "**")
      let right ← if binds then
          readOperators place (if operator == "**" then n else n + 1) right fuel
        else pure right
      readOperators place least (joinOperands operator left right) fuel

/-- Read an operand with the operators before it. -/
def readUnary (place : ReadPlace) : Nat → Read Expr
  | 0 => fail
  | fuel + 1 => do
    let operator ← match ← peek? with
      | some (.mark "-") => pure (some "-")
      | some (.mark "+") => pure (some "+")
      | some (.mark "!") => pure (some "!")
      | _ => pure none
    match operator with
    | some operator => do
      skip
      place.deeper.check
      let operand ← readUnary place.deeper fuel
      return .call operator [operand]
    | none => do
      let root ← readPrimary place fuel
      readLinks place root fuel

/-- Read the links after an expression. -/
def readLinks (place : ReadPlace) (root : Expr) : Nat → Read Expr
  | 0 => fail
  | fuel + 1 => do
    if ← accept "." then
      let name ← readMemberName
      if ← accept "(" then
        let args ← readList place ")" fuel
        readLinks place (linkTo root (.method name args)) fuel
      else readLinks place (linkTo root (.member name)) fuel
    else if ← accept "[" then
      let position ← readExpr place.deeper fuel
      expect "]"
      readLinks place (linkTo root (.index position)) fuel
    else return root

/-- Read expressions parted by commas up to a mark. -/
def readList (place : ReadPlace) (mark : String) : Nat → Read (List Expr)
  | 0 => fail
  | fuel + 1 => do
    if ← accept mark then return []
    let item ← readExpr place.deeper fuel
    if ← accept "," then
      let rest ← readList place mark fuel
      return item :: rest
    expect mark
    return [item]

/-- Read the members of an object. -/
def readMembers (place : ReadPlace) : Nat → Read (List (String × Expr))
  | 0 => fail
  | fuel + 1 => do
    if ← accept "\x7d" then return []
    let key ← match ← peek? with
      | some (.text s) => pure s
      | some (.name s) => if isUsableName s then pure s else fail
      | _ => fail
    skip
    expect ":"
    let value ← readExpr place.deeper fuel
    if ← accept "," then
      let rest ← readMembers place fuel
      if rest.any (·.1 == key) then fail else return (key, value) :: rest
    expect "\x7d"
    return [(key, value)]

/-- Read the pieces of a template. -/
def readTemplate (place : ReadPlace) : Nat → Read (List Expr)
  | 0 => fail
  | fuel + 1 => do
    match ← peek? with
    | some (.templateText s) => do
      skip
      let rest ← readTemplate place fuel
      return .literal (.text s) :: rest
    | some .insertStart => do
      skip
      let body ← withinScope (readStatements { place.deeper with inLoop := false } fuel)
      if (← peek?) != some .insertEnd then fail
      skip
      let rest ← readTemplate place fuel
      return .block body :: rest
    | some .templateEnd => do
      skip
      return []
    | _ => fail

/-- Read a closure after its parameters. -/
def readClosure (params : List String) : Nat → Read Expr
  | 0 => fail
  | fuel + 1 => do
    let body ← isolated params (readStatement .function fuel)
    return .closure params body

/-- Read an operand. -/
def readPrimary (place : ReadPlace) : Nat → Read Expr
  | 0 => fail
  | fuel + 1 => do
    match ← peek? with
    | some (.int n) => skip; return .literal (.int n)
    | some (.text s) => skip; return .literal (.text s)
    | some (.char c) => skip; return .literal (.char c)
    | some .templateStart => do
      skip
      let parts ← readTemplate place fuel
      return .template parts
    | some (.mark "(") => do
      skip
      if ← accept ")" then return .literal .unit
      let inner ← readExpr place.deeper fuel
      expect ")"
      return inner
    | some (.mark "[") => do
      skip
      let items ← readList place "]" fuel
      return .array items
    | some (.mark "#\x7b") => do
      skip
      let members ← readMembers place fuel
      return .object (members.map (·.1)) (members.map (·.2))
    | some (.mark "||") => do
      skip
      readClosure [] fuel
    | some (.mark "|") => do
      skip
      let params ← readNames "|" fuel
      readClosure params fuel
    | some (.mark "\x7b") => readBlock place.deeper fuel
    | some (.name "true") => skip; return .literal (.bool true)
    | some (.name "false") => skip; return .literal (.bool false)
    | some (.name "if") => readBranch place fuel
    | some (.name "switch") => readChoose place fuel
    | some (.name "while") => readLoop place fuel
    | some (.name "loop") => readLoop place fuel
    | some (.name "do") => readLoop place fuel
    | some (.name "for") => readLoop place fuel
    | some (.name s) => do
      if !isUsableName s then fail
      skip
      if ← accept "(" then
        let args ← readList place ")" fuel
        return .call s args
      return .variable s
    | _ => fail

/-- Read a block. -/
def readBlock (place : ReadPlace) : Nat → Read Expr
  | 0 => fail
  | fuel + 1 => do
    expect "\x7b"
    let body ← withinScope (readStatements place fuel)
    expect "\x7d"
    return .block body

/-- Read a conditional expression. -/
def readBranch (place : ReadPlace) : Nat → Read Expr
  | 0 => fail
  | fuel + 1 => do
    expectWord "if"
    let condition ← readExpr place.deeper fuel
    let yes ← readBlock place.deeper fuel
    if ← acceptWord "else" then
      let no ← if (← peek?) == some (.name "if") then readBranch place.deeper fuel
        else readBlock place.deeper fuel
      return .branch condition yes (some no)
    return .branch condition yes none

/-- Read the patterns of a case. -/
def readPatterns (place : ReadPlace) : Nat → Read (List CasePattern)
  | 0 => fail
  | fuel + 1 => do
    let operand ← readUnary place.deeper fuel
    let pattern ← match operand with
      | .literal (.int n) =>
        match ← peek? with
        | some (.mark "..") => readRangeEnd n
        | some (.mark "..=") => readRangeEnd n
        | _ => pure (CasePattern.exactly (.int n))
      | .literal l => pure (.exactly l)
      | _ => fail
    if ← accept "|" then
      let rest ← readPatterns place fuel
      return pattern :: rest
    return [pattern]

/-- Read the cases of a choice. -/
def readCases (place : ReadPlace) : Nat → Read (List Case)
  | 0 => fail
  | fuel + 1 => do
    if ← accept "\x7d" then return []
    let patterns ← if ← acceptWord "_" then pure none
      else some <$> readPatterns place fuel
    let condition ← if ← acceptWord "if" then some <$> readExpr place.deeper fuel else pure none
    expect "=>"
    let body ← readStatement { place.deeper with outermost := false } fuel
    let more ← accept ","
    if !more && !endsItself body && (← peek?) != some (.mark "\x7d") then fail
    let rest ← readCases place fuel
    return .mk patterns condition body :: rest

/-- Read a choice. -/
def readChoose (place : ReadPlace) : Nat → Read Expr
  | 0 => fail
  | fuel + 1 => do
    expectWord "switch"
    let subject ← readExpr place.deeper fuel
    expect "\x7b"
    let cases ← readCases place fuel
    return .choose subject cases

/-- Read a loop. -/
def readLoop (place : ReadPlace) : Nat → Read Expr
  | 0 => fail
  | fuel + 1 => do
    let inside := { place.deeper with inLoop := true }
    if ← acceptWord "while" then
      let condition ← readExpr place.deeper fuel
      let body ← readBlock inside fuel
      return .whileLoop true condition body
    else if ← acceptWord "loop" then
      let body ← readBlock inside fuel
      return .whileLoop true (.literal (.bool true)) body
    else if ← acceptWord "do" then
      let body ← readBlock inside fuel
      let expected ← acceptWord "while"
      if !expected then expectWord "until"
      let condition ← readExpr place.deeper fuel
      return .doLoop expected condition body
    else
      expectWord "for"
      let (name, counter) ← if ← accept "(" then do
          let name ← readName
          expect ","
          let counter ← readName
          expect ")"
          if name == counter then fail
          pure (name, some counter)
        else do
          let name ← readName
          pure (name, none)
      expectWord "in"
      let items ← readExpr place.deeper fuel
      let body ← withinScope do
        declareName name false
        match counter with
        | some counter => declareName counter false
        | none => pure ()
        readBlock inside fuel
      return .forLoop name counter items body

/-- Read the value after a word, if the statement goes on. -/
def readOptionalValue (place : ReadPlace) : Nat → Read (Option Expr)
  | 0 => fail
  | fuel + 1 => do
    match ← peek? with
    | none => return none
    | some (.mark ";") => return none
    | some (.mark "\x7d") => return none
    | some .insertEnd => return none
    | some (.mark ",") => return none
    | _ => some <$> readExpr place fuel

/-- Read a statement. -/
def readStatement (place : ReadPlace) : Nat → Read Expr
  | 0 => fail
  | fuel + 1 => do
    place.check
    let inner := place.deeper
    match ← peek? with
    | some (.name "let") => readDeclaration inner false fuel
    | some (.name "const") => readDeclaration inner true fuel
    | some (.name "fn") => readFunction place fuel
    | some (.name "private") => do
      skip
      readFunction place fuel
    | some (.name "try") => do
      skip
      let body ← readBlock inner fuel
      expectWord "catch"
      let name ← if ← accept "(" then do
          let name ← readName
          expect ")"
          pure (some name)
        else pure none
      let handler ← withinScope do
        match name with
        | some name => declareName name false
        | none => pure ()
        readBlock inner fuel
      return .attempt body name handler
    | some (.name "throw") => skip; .throw <$> readOptionalValue inner fuel
    | some (.name "return") => skip; .giveBack <$> readOptionalValue inner fuel
    | some (.name "break") =>
      if place.inLoop then skip; .leaveLoop <$> readOptionalValue inner fuel else fail
    | some (.name "continue") => if place.inLoop then skip; return .nextRound else fail
    | some (.name "if") => readBranch inner fuel
    | some (.name "switch") => readChoose inner fuel
    | some (.name "while") => readLoop inner fuel
    | some (.name "loop") => readLoop inner fuel
    | some (.name "do") => readLoop inner fuel
    | some (.name "for") => readLoop inner fuel
    | some (.mark "\x7b") => readBlock inner fuel
    | _ => do
      let target ← readExpr place fuel
      match (← peek?).bind assignment? with
      | none => return target
      | some operator => do
        skip
        if !isAssignable target then fail
        let value ← readExpr place fuel
        let names := (← get).names
        let constant := match target with
          | .variable name => (names.lookup name).getD false
          | _ => false
        if constant then fail
        return .assign target operator value

/-- Read a declaration of a variable or a constant. -/
def readDeclaration (place : ReadPlace) (constant : Bool) : Nat → Read Expr
  | 0 => fail
  | fuel + 1 => do
    skip
    let name ← readName
    let value ← if ← accept "=" then some <$> readExpr place fuel else pure none
    declareName name constant
    return .declare constant name value

/-- Read a declaration of a function. -/
def readFunction (place : ReadPlace) : Nat → Read Expr
  | 0 => fail
  | fuel + 1 => do
    if !place.outermost then fail
    expectWord "fn"
    let name ← readName
    expect "("
    let params ← readNames ")" fuel
    let body ← isolated params (readBlock .function fuel)
    modify fun s => { s with functions := ⟨name, params, body⟩ :: s.functions }
    return .block []

/-- Read statements up to the end of a block or of the script. -/
def readStatements (place : ReadPlace) : Nat → Read (List Expr)
  | 0 => fail
  | fuel + 1 => do
    if ← accept ";" then readStatements place fuel
    else
      match ← peek? with
      | none => return []
      | some (.mark "\x7d") => return []
      | some .insertEnd => return []
      | _ => do
        let isFunction ← do
          let next ← peek?
          pure (next == some (.name "fn") || next == some (.name "private"))
        let statement ← readStatement place fuel
        let ended ← accept ";"
        if !ended && !endsItself statement then
          match ← peek? with
          | none => pure ()
          | some (.mark "\x7d") => pure ()
          | some .insertEnd => pure ()
          | _ => fail
        let rest ← readStatements place fuel
        return if isFunction then rest else statement :: rest

end

/-- The texts of a script are no longer than allowed; zero allows any
length. -/
def textsFit (limit : Nat) (tokens : List Token) : Bool :=
  limit == 0 || tokens.all fun
    | .text s => s.utf8ByteSize ≤ limit
    | .templateText s => s.utf8ByteSize ≤ limit
    | _ => true

/-- Read a script whose texts are at most `limit` bytes long. -/
def Program.read? (limit : Nat) (script : String) : Option Program := do
  let tokens ← Token.ofScript? script
  if !textsFit limit tokens then none
  let (body, state) ← (readStatements .script (16 * tokens.length + 64)).run ⟨tokens, [], []⟩
  if state.tokens.isEmpty then some ⟨state.functions, body⟩ else none

end Folio.Script
