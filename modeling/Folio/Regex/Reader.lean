import Folio.Regex.ClassName
import Folio.Regex.Syntax
import Folio.Text.Blank

/-!
# Folio.Regex.Reader

Reading regular expressions.  `Layout` is what verbose mode skips, `readEscape`
reads what follows a backslash, `readClass` a class in brackets, and
`Expression.parse?` a whole expression.  There are no references back and no
assertions that look around; what is malformed is no expression.
-/

namespace Folio.Regex

open Folio.Text Folio.Unicode

/-! ## Flags -/

/-- How an expression is read. -/
structure Flags where
  ignoreCase : Bool := false
  multiLine : Bool := false
  dotAll : Bool := false
  swapGreed : Bool := false
  unicode : Bool := true
  carriageReturn : Bool := false
  verbose : Bool := false
deriving DecidableEq, Repr

namespace Flags

/-- Set the flag that a letter names. -/
def set? (f : Flags) (letter : Char) (value : Bool) : Option Flags :=
  match letter with
  | 'i' => some { f with ignoreCase := value }
  | 'm' => some { f with multiLine := value }
  | 's' => some { f with dotAll := value }
  | 'U' => some { f with swapGreed := value }
  | 'u' => some { f with unicode := value }
  | 'R' => some { f with carriageReturn := value }
  | 'x' => some { f with verbose := value }
  | _ => none

/-- What belongs to words. -/
def wordRule (f : Flags) : WordRule := if f.unicode then .unicode else .ascii

/-- What ends lines. -/
def lineRule (f : Flags) : LineRule := if f.carriageReturn then .carriageReturn else .lineFeed

/-- The set as it is matched: without regard to case where case does not
count. -/
def folded (f : Flags) (s : CharSet) : CharSet :=
  if f.ignoreCase then (if f.unicode then s.caseClosed else s.caseClosedAscii) else s

end Flags

/-! ## Layout -/

/-- The text without the blanks and comments it begins with; a comment runs
from `#` to the end of the line. -/
def skipLayout (inComment : Bool) : List Char → List Char
  | [] => []
  | c :: rest =>
    if inComment then skipLayout (c != '\n') rest
    else if isBlank c then skipLayout false rest
    else if c = '#' then skipLayout true rest
    else c :: rest

/-- Skip layout in verbose mode. -/
def Flags.skip (f : Flags) (s : List Char) : List Char :=
  if f.verbose then skipLayout false s else s

/-- The characters of class `p` that the text begins with, each with the
layout after it, and the rest; at most `fuel` of them. -/
def takeSpaced (f : Flags) (p : Char → Bool) : Nat → List Char → List Char × List Char
  | 0, s => ([], s)
  | _, [] => ([], [])
  | fuel + 1, c :: rest =>
    if p c then
      let (taken, rest) := takeSpaced f p fuel (f.skip rest)
      (c :: taken, rest)
    else ([], c :: rest)

/-- Read a decimal number of 32 bits, which blanks may surround. -/
def readDecimal (f : Flags) (s : List Char) : Option (Nat × List Char) := do
  let s := s.dropWhile isBlank
  let (digits, rest) := takeSpaced f isAsciiDigit s.length s
  let value ← naturalUpTo? 0xFFFFFFFF digits
  some (value, rest.dropWhile isBlank)

/-! ## Escapes -/

/-- What an escape stands for. -/
inductive Escaped where
  | literal (c : Char)
  | set (chars : CharSet)
  | assertion (a : Assertion)

/-- The character with a number. -/
def charNumbered? (n : Nat) : Option Char := if n.isValidChar then some (Char.ofNat n) else none

/-- Read the hexadecimal digits of a character: between braces any number of
them, without braces as many as the letter of the escape tells. -/
def readNumbered (f : Flags) (letter : Char) (s : List Char) : Option (Char × List Char) :=
  match f.skip s with
  | '\x7b' :: rest => do
    let rest := f.skip rest
    let (digits, rest) := takeSpaced f (· != '\x7d') rest.length rest
    let rest ← stripPrefix? ['\x7d'] rest
    if digits.isEmpty || !digits.all fun d => (hexDigit? d).isSome then none
    else
      let c ← charNumbered? (hexValue digits)
      some (c, rest)
  | rest => do
    let count := if letter = 'x' then 2 else if letter = 'u' then 4 else 8
    let (front, last) := takeSpaced f (fun d => (hexDigit? d).isSome) (count - 1) rest
    match last with
    | d :: rest =>
      let digits := front ++ [d]
      if digits.length != count || !(hexDigit? d).isSome then none
      else if letter = 'x' && !f.unicode && hexValue digits ≥ 128 then none
      else
        let c ← charNumbered? (hexValue digits)
        some (c, rest)
    | [] => none

/-- Read the name of a class after `\p`, one letter or in braces. -/
def readClassQuery (f : Flags) (s : List Char) : Option (CharSet × List Char) :=
  match f.skip s with
  | [] => none
  | '\x7b' :: rest => do
    let rest := f.skip rest
    let (query, rest) := takeSpaced f (· != '\x7d') rest.length rest
    let rest ← stripPrefix? ['\x7d'] rest
    let set ← CharSet.queried? query
    some (set, rest)
  | c :: rest => do
    let set ← CharSet.categoryNamed? (looseName [c])
    some (set, f.skip rest)

/-- The assertion that a name in braces after `\b` makes. -/
def namedBoundary? (rule : WordRule) (name : List Char) : Option Assertion :=
  match String.ofList name with
  | "start" => some (.wordStart rule)
  | "end" => some (.wordEnd rule)
  | "start-half" => some (.wordStartHalf rule)
  | "end-half" => some (.wordEndHalf rule)
  | _ => none

/-- Read what follows `\b`.  A brace that no letter or hyphen follows is not
part of it. -/
def readBoundary (f : Flags) (s : List Char) : Option (Assertion × List Char) :=
  let plain := Assertion.wordBoundary f.wordRule
  let isNameChar := fun c => isAsciiLetter c || c == '-'
  match s with
  | '\x7b' :: rest =>
    match f.skip rest with
    | [] => none
    | c :: rest =>
      if !isNameChar c then some (plain, s)
      else do
        let (name, rest) := takeSpaced f isNameChar (rest.length + 1) (c :: rest)
        let rest ← stripPrefix? ['\x7d'] rest
        let assertion ← namedBoundary? f.wordRule name
        some (assertion, rest)
  | _ => some (plain, s)

/-- The set of a one-letter class, `none` for other letters. -/
def letterClass? (f : Flags) (letter : Char) : Option CharSet :=
  match letter with
  | 'd' | 'D' => some (if f.unicode then .digits else .asciiDigits)
  | 's' | 'S' => some (if f.unicode then .blanks else .asciiBlanks)
  | 'w' | 'W' => some (if f.unicode then .words else .asciiWords)
  | _ => none

/-- The control character that a letter stands for. -/
def controlLetter? (letter : Char) : Option Char :=
  match letter with
  | 'a' => some '\x07'
  | 'f' => some '\x0c'
  | 't' => some '\t'
  | 'n' => some '\n'
  | 'r' => some '\r'
  | 'v' => some '\x0b'
  | _ => none

/-- The assertion that a letter makes. -/
def letterAssertion? (f : Flags) (letter : Char) : Option Assertion :=
  match letter with
  | 'A' => some .textStart
  | 'z' => some .textEnd
  | 'B' => some (.noWordBoundary f.wordRule)
  | '<' => some (.wordStart f.wordRule)
  | '>' => some (.wordEnd f.wordRule)
  | _ => none

/-- Read what follows a backslash. -/
def readEscape (f : Flags) : List Char → Option (Escaped × List Char)
  | [] => none
  | c :: rest =>
    if c = 'x' || c = 'u' || c = 'U' then
      (readNumbered f c rest).map fun (c, rest) => (.literal c, rest)
    else if c = 'p' || c = 'P' then
      if f.unicode then
        (readClassQuery f rest).map fun (set, rest) =>
          let set := f.folded set
          (.set (if c = 'P' then set.complement else set), rest)
      else none
    else if c = 'b' then
      (readBoundary f rest).map fun (assertion, rest) => (.assertion assertion, rest)
    else
      match letterClass? f c, controlLetter? c, letterAssertion? f c with
      | some set, _, _ =>
        if isAsciiUpper c then
          if f.unicode then some (.set set.complement, rest) else none
        else some (.set set, rest)
      | _, some control, _ => some (.literal control, rest)
      | _, _, some assertion => some (.assertion assertion, rest)
      | _, _, _ => if c.toNat < 128 && !isAsciiAlnum c then some (.literal c, rest) else none
where
  /-- An ASCII capital. -/
  isAsciiUpper (c : Char) : Bool := 'A' ≤ c && c ≤ 'Z'

/-! ## Classes in brackets -/

/-- An operation on two sets. -/
inductive SetOperation where
  | intersection
  | difference
  | symmetricDifference

/-- The result of an operation; both sides are folded first. -/
def SetOperation.apply (f : Flags) (op : SetOperation) (s t : CharSet) : CharSet :=
  let s := f.folded s
  let t := f.folded t
  match op with
  | intersection => s.inter t
  | difference => s.diff t
  | symmetricDifference => s.symmDiff t

/-- Members of a class: their ranges, how many they are, and how deep the
deepest of them is nested. -/
structure Members where
  ranges : List (Nat × Nat)
  count : Nat
  depth : Nat

namespace Members

/-- No members. -/
def none : Members := ⟨[], 0, 0⟩

/-- The members with another one before them. -/
def add (ms : Members) (ranges : List (Nat × Nat)) (depth : Nat) : Members :=
  ⟨ranges ++ ms.ranges, ms.count + 1, max depth ms.depth⟩

/-- How deep the members are nested together; several of them form a union. -/
def levels (ms : Members) : Nat := if ms.count ≤ 1 then ms.depth else ms.depth + 1

end Members

/-- A set and how deep what it was written as is nested. -/
structure Operand where
  set : CharSet
  levels : Nat

/-- A class that has been opened and not closed: the members of the class
around it so far, whether it is complemented, and the operation whose right
side is being read. -/
structure ClassLevel where
  outer : Members
  complemented : Bool
  operation : Option (SetOperation × Operand)

/-- The left side with the members read after it. -/
def ClassLevel.operand (f : Flags) (level : ClassLevel) (members : Members) : Operand :=
  let right : Operand := ⟨.ofRanges members.ranges, members.levels⟩
  match level.operation with
  | none => right
  | some (op, left) => ⟨op.apply f left.set right.set, max left.levels right.levels + 1⟩

/-- Read the hyphens at the beginning of a class, which stand for
themselves. -/
def leadingHyphens (f : Flags) : Nat → List Char → Members × List Char
  | fuel + 1, '-' :: rest =>
    let (members, rest) := leadingHyphens f fuel (f.skip rest)
    (members.add [(45, 45)] 0, rest)
  | _, s => (.none, s)

/-- Read the beginning of a class after its bracket: whether it is
complemented, and the hyphens or the bracket that stand for themselves. -/
def openClass (f : Flags) (s : List Char) : Option (Bool × Members × List Char) := do
  let s := f.skip s
  let (complemented, s) := match s with
    | '^' :: rest => (true, f.skip rest)
    | _ => (false, s)
  let (members, s) := leadingHyphens f s.length s
  let (members, s) := match members.count, s with
    | 0, ']' :: rest => (members.add [(93, 93)] 0, f.skip rest)
    | _, _ => (members, s)
  if s.isEmpty then none else some (complemented, members, s)

/-- Read the name of an ASCII class after its bracket: `:alpha:]` or
`:^alpha:]`. -/
def asciiClass? (f : Flags) (s : List Char) : Option (CharSet × List Char) := do
  let s ← stripPrefix? [':'] s
  let (complemented, s) := match s with
    | '^' :: rest => (true, rest)
    | _ => (false, s)
  let (name, rest) ← cut? [':'] s
  let rest ← stripPrefix? [']'] rest
  let set ← CharSet.asciiNamed? name
  let set := f.folded set
  some (if complemented then set.complement else set, rest)

/-- Read one character or escape of a class. -/
def readClassItem (f : Flags) : List Char → Option ((Char ⊕ CharSet) × List Char)
  | [] => none
  | '\\' :: rest =>
    match readEscape f rest with
    | some (.literal c, rest) => some (.inl c, rest)
    | some (.set s, rest) => some (.inr s, rest)
    | _ => none
  | c :: rest => some (.inl c, rest)

/-- Read one member of a class: a range of characters, a character or an
escape. -/
def readClassMember (f : Flags) (s : List Char) : Option (List (Nat × Nat) × List Char) := do
  let (first, rest) ← readClassItem f s
  let alone := match first with
    | .inl c => [(c.toNat, c.toNat)]
    | .inr set => set.ranges
  let rest := f.skip rest
  match rest with
  | '-' :: after =>
    let after := f.skip after
    match after with
    | [] => none
    | ']' :: _ => some (alone, rest)
    | '-' :: _ => some (alone, rest)
    | _ =>
      let (second, rest) ← readClassItem f after
      match first, second with
      | .inl a, .inl b => if a ≤ b then some ([(a.toNat, b.toNat)], rest) else none
      | _, _ => none
  | _ => some (alone, rest)

/-- Read a class to its closing bracket.  `level` is the innermost open class,
`levels` those around it, and `members` what was read since its last operation;
`fuel` bounds the members. -/
def readClassBody (f : Flags) (level : ClassLevel) (levels : List ClassLevel)
    (members : Members) : Nat → List Char → Option (Operand × List Char)
  | 0, _ => none
  | fuel + 1, s =>
    let operate := fun op rest =>
      let level := { level with operation := some (op, level.operand f members) }
      readClassBody f level levels .none fuel rest
    match f.skip s with
    | [] => none
    | '[' :: rest =>
      match asciiClass? f rest with
      | some (set, rest) => readClassBody f level levels (members.add set.ranges 0) fuel rest
      | none => do
        let (complemented, first, rest) ← openClass f rest
        readClassBody f ⟨members, complemented, none⟩ (level :: levels) first fuel rest
    | ']' :: rest =>
      let inside := level.operand f members
      let set := f.folded inside.set
      let set := if level.complemented then set.complement else set
      let closed : Operand := ⟨set, inside.levels + 1⟩
      match levels with
      | [] => some (closed, rest)
      | outer :: levels =>
        readClassBody f outer levels (level.outer.add set.ranges closed.levels) fuel rest
    | '&' :: '&' :: rest => operate .intersection rest
    | '-' :: '-' :: rest => operate .difference rest
    | '~' :: '~' :: rest => operate .symmetricDifference rest
    | s => do
      let (member, rest) ← readClassMember f s
      readClassBody f level levels (members.add member 0) fuel rest

/-- Read a class after its opening bracket. -/
def readClass (f : Flags) (s : List Char) : Option (Pattern × List Char) := do
  let (complemented, first, rest) ← openClass f s
  let (operand, rest) ←
    readClassBody f ⟨.none, complemented, none⟩ [] first (s.length + 1) rest
  if f.unicode || operand.set.isAscii then some (.bracketed operand.levels operand.set, rest)
  else none

/-! ## Repetitions -/

/-- Read the mark that makes a repetition prefer fewer. -/
def readGreed (f : Flags) : List Char → Bool × List Char
  | '?' :: rest => (f.swapGreed, rest)
  | rest => (!f.swapGreed, rest)

/-- Read the counts of a repetition after the opening brace. -/
def readCounts (f : Flags) (s : List Char) : Option ((Nat × Option Nat) × List Char) := do
  let (least, rest) ← readDecimal f (f.skip s)
  let (most, rest) ← match rest with
    | ',' :: rest =>
      match f.skip rest with
      | '\x7d' :: rest => some (none, '\x7d' :: rest)
      | rest => (readDecimal f rest).map fun (most, rest) => (some most, rest)
    | _ => some (some least, rest)
  let rest ← stripPrefix? ['\x7d'] rest
  if (most.all fun most => least ≤ most) then some ((least, most), f.skip rest) else none

/-! ## Groups -/

/-- Read flags up to the colon or parenthesis after them; `seen` are the
letters read so far and `value` whether the next letters are set or unset. -/
def readFlags (seen : List Char) (value : Bool) (f : Flags) :
    List Char → Option (List Char × Flags × List Char)
  | [] => none
  | c :: rest =>
    if c = ':' || c = ')' then
      if seen.head? = some '-' then none else some (seen, f, c :: rest)
    else if seen.contains c then none
    else if c = '-' then readFlags (c :: seen) false f rest
    else
      match f.set? c value with
      | some f => readFlags (c :: seen) value f rest
      | none => none

/-- A character that the name of a group can hold. -/
def isGroupNameChar (first : Bool) (c : Char) : Bool :=
  c == '_' || (if first then isAlphabetic c
    else c == '.' || c == '[' || c == ']' || isAlphanumeric c)

/-- Read the name of a group and the angle bracket after it. -/
def readGroupName (s : List Char) : Option (List Char × List Char) := do
  let (name, rest) ← cut? ['>'] s
  match name with
  | [] => none
  | c :: others =>
    if isGroupNameChar true c && others.all (isGroupNameChar false) then some (name, rest) else none

/-! ## Expressions -/

/-- The level of a group: the alternatives that are finished and the parts of
the one being read, last first.  A part is absent where flags were set, since
no repetition may follow there. -/
structure Level where
  flags : Flags
  finished : List Pattern
  parts : List (Option Pattern)

/-- Several parts as one expression. -/
def Pattern.ofParts (parts : List (Option Pattern)) : Pattern :=
  match parts.reverse with
  | [] | [none] => .empty
  | [some p] => p
  | parts => .sequence (parts.filterMap id)

/-- The expression of a level. -/
def Level.pattern (level : Level) : Pattern :=
  let last := Pattern.ofParts level.parts
  match level.finished with
  | [] => last
  | finished => .choice (last :: finished).reverse

/-- The level with another part. -/
def Level.push (level : Level) (part : Pattern) : Level :=
  { level with parts := some part :: level.parts }

/-- The level with its last part repeated. -/
def Level.repeatLast (level : Level) (least : Nat) (most : Option Nat) (greedy : Bool) :
    Option Level :=
  match level.parts with
  | some part :: rest =>
    some { level with parts := some (.repeated least most greedy part) :: rest }
  | _ => none

/-- What has been read of an expression. -/
structure Progress where
  level : Level
  /-- The groups around it, each with its number if it has one. -/
  outer : List (Option Nat × Level)
  /-- How many groups have numbers. -/
  groups : Nat
  names : List (List Char × Nat)

/-- The expression of a character. -/
def Flags.literal? (f : Flags) (c : Char) : Option Pattern :=
  if !f.ignoreCase then some (.set (.single c))
  else if f.unicode then
    match caseGroupOf.get? c.toNat with
    | some group => some (.set (.ofRanges (group.map fun n => (n, n))))
    | none => some (.set (.single c))
  else if c.toNat < 128 then some (.set (CharSet.single c).caseClosedAscii)
  else none

/-- The expression of a dot. -/
def Flags.dot? (f : Flags) : Option Pattern :=
  if !f.unicode then none
  else if f.dotAll then some (.set .all)
  else if f.carriageReturn then some (.set (CharSet.ofText "\r\n").complement)
  else some (.set (CharSet.single '\n').complement)

/-- Open a group; what follows its parenthesis decides the kind. -/
def Progress.openGroup (p : Progress) (s : List Char) : Option (Progress × List Char) :=
  let f := p.level.flags
  let enter := fun (number : Option Nat) (f : Flags) =>
    { p with level := ⟨f, [], []⟩, outer := (number, p.level) :: p.outer }
  let named := fun rest => do
    let (name, rest) ← readGroupName rest
    if p.names.any (·.1 == name) then none
    else
      let inner := enter (some (p.groups + 1)) f
      some ({ inner with groups := p.groups + 1, names := (name, p.groups + 1) :: p.names }, rest)
  match f.skip s with
  | '?' :: '=' :: _ => none
  | '?' :: '!' :: _ => none
  | '?' :: '<' :: '=' :: _ => none
  | '?' :: '<' :: '!' :: _ => none
  | '?' :: 'P' :: '<' :: rest => named rest
  | '?' :: '<' :: rest => named rest
  | '?' :: rest => do
    let (seen, f, rest) ← readFlags [] true f rest
    match rest with
    | ':' :: rest => some (enter none f, rest)
    | _ :: rest =>
      if seen.isEmpty then none
      else
        some ({ p with level := { p.level with flags := f, parts := none :: p.level.parts } }, rest)
    | [] => none
  | rest => some ({ enter (some (p.groups + 1)) f with groups := p.groups + 1 }, rest)

/-- Close the innermost group. -/
def Progress.closeGroup (p : Progress) : Option Progress :=
  match p.outer with
  | [] => none
  | (number, level) :: outer =>
    some { p with level := level.push (.group number p.level.pattern), outer }

/-- Read the next piece of an expression. -/
def Progress.step (p : Progress) : List Char → Option (Progress × List Char)
  | [] => none
  | c :: rest =>
    let f := p.level.flags
    let pushed := fun (part : Pattern) (rest : List Char) =>
      some ({ p with level := p.level.push part }, rest)
    let repeated := fun (least : Nat) (most : Option Nat) (rest : List Char) =>
      let (greedy, rest) := readGreed f rest
      (p.level.repeatLast least most greedy).map fun level => ({ p with level }, rest)
    match c with
    | '(' => p.openGroup rest
    | ')' => p.closeGroup.map fun p => (p, rest)
    | '|' =>
      let level := { p.level with
        finished := Pattern.ofParts p.level.parts :: p.level.finished, parts := [] }
      some ({ p with level }, rest)
    | '[' => (readClass f rest).bind fun (part, rest) => pushed part rest
    | '?' => repeated 0 (some 1) rest
    | '*' => repeated 0 none rest
    | '+' => repeated 1 none rest
    | '\x7b' => (readCounts f rest).bind fun ((least, most), rest) => repeated least most rest
    | '.' => f.dot?.bind fun part => pushed part rest
    | '^' => pushed (.assert (if f.multiLine then .lineStart f.lineRule else .textStart)) rest
    | '$' => pushed (.assert (if f.multiLine then .lineEnd f.lineRule else .textEnd)) rest
    | '\\' =>
      match readEscape f rest with
      | none => none
      | some (.literal c, rest) => (f.literal? c).bind fun part => pushed part rest
      | some (.set set, rest) => pushed (.set set) rest
      | some (.assertion assertion, rest) => pushed (.assert assertion) rest
    | c => (f.literal? c).bind fun part => pushed part rest

/-- Read an expression to its end; each step takes a character, which `fuel`
counts. -/
def Progress.finish (p : Progress) : Nat → List Char → Option Progress
  | 0, _ => none
  | fuel + 1, s =>
    match p.level.flags.skip s with
    | [] => if p.outer.isEmpty then some p else none
    | s =>
      match p.step s with
      | some (p, rest) => finish p fuel rest
      | none => none

/-- How deep expressions may be nested. -/
def depthLimit : Nat := 250

/-- Read a regular expression. -/
def Expression.parse? (s : List Char) : Option Expression := do
  let p ← Progress.finish ⟨⟨{}, [], []⟩, [], 0, []⟩ (s.length + 1) s
  let pattern := p.level.pattern
  if pattern.depth ≤ depthLimit then some ⟨pattern, p.names⟩ else none

end Folio.Regex
