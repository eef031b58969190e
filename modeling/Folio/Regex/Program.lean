import Folio.Regex.Syntax
import Folio.Text.Utf8

/-!
# Folio.Regex.Program

Regular expressions as programs.  A program is a list of instructions, each
with the numbers of those that may follow it; where two may follow, the first
is preferred.  Programs are built from their ends, so that what follows an
instruction is known when it is written.
-/

namespace Folio.Regex

/-- An instruction. -/
inductive Instruction where
  /-- Take a character of a set. -/
  | take (ranges : Array (Nat × Nat)) (next : Nat)
  | assert (assertion : Assertion) (next : Nat)
  /-- Record the place in a slot. -/
  | record (slot next : Nat)
  | branch (first second : Nat)
  | accept
deriving Inhabited

/-- The instructions written so far. -/
abbrev Code := Array Instruction

/-- Write an instruction; its number, and the instructions. -/
def Code.emit (code : Code) (i : Instruction) : Nat × Code := (code.size, code.push i)

/-- A branch that prefers `again` when it is greedy. -/
def choose (greedy : Bool) (again leave : Nat) : Instruction :=
  if greedy then .branch again leave else .branch leave again

/-- Write a piece of code `count` times, each time before what was written. -/
def writeTimes (write : Nat → Code → Nat × Code) : Nat → Nat → Code → Nat × Code
  | 0, next, code => (next, code)
  | count + 1, next, code =>
    let (entry, code) := write next code
    writeTimes write count entry code

/-- Write a piece of code up to `count` times, each time inside the one before
it. -/
def writeOptional (write : Nat → Code → Nat × Code) (greedy : Bool) (leave : Nat) :
    Nat → Nat → Code → Nat × Code
  | 0, next, code => (next, code)
  | count + 1, next, code =>
    let (entry, code) := write next code
    let (entry, code) := code.emit (choose greedy entry leave)
    writeOptional write greedy leave count entry code

/-- Write a loop around a piece of code.  The numbers of the piece and of the
branch after it. -/
def writeLoop (write : Nat → Code → Nat × Code) (greedy : Bool) (next : Nat) (code : Code) :
    (Nat × Nat) × Code :=
  let (again, code) := code.emit .accept
  let (entry, code) := write again code
  ((entry, again), code.setIfInBounds again (choose greedy entry next))

/-- Write a repetition of a piece of code. -/
def writeRepeated (write : Nat → Code → Nat × Code) (canBeEmpty : Bool) (least : Nat)
    (most : Option Nat) (greedy : Bool) (next : Nat) (code : Code) : Nat × Code :=
  match most with
  | some most =>
    let (entry, code) := writeOptional write greedy next (most - least) next code
    writeTimes write least entry code
  | none =>
    let ((entry, again), code) := writeLoop write greedy next code
    match least with
    | 0 => if canBeEmpty then code.emit (choose greedy entry next) else (again, code)
    | others + 1 => writeTimes write others entry code

namespace Pattern

/-- The greatest number of repetitions of an expression: one that matches only
the empty text is tried once. -/
def boundRepeats (body : Pattern) (least : Nat) (most : Option Nat) : Nat × Option Nat :=
  if body.isAlwaysEmpty then (min least 1, some (min (most.getD 1) 1)) else (least, most)

mutual

/-- Write the code of an expression before `next`. -/
def write : Pattern → Nat → Code → Nat × Code
  | empty, next, code => (next, code)
  | set chars, next, code | bracketed _ chars, next, code =>
    code.emit (.take chars.ranges.toArray next)
  | assert assertion, next, code => code.emit (.assert assertion next)
  | repeated least most greedy body, next, code =>
    let (least, most) := body.boundRepeats least most
    writeRepeated (write body) body.canBeEmpty least most greedy next code
  | group none body, next, code => write body next code
  | group (some number) body, next, code =>
    let (last, code) := code.emit (.record (2 * number + 1) next)
    let (entry, code) := write body last code
    code.emit (.record (2 * number) entry)
  | sequence parts, next, code => writeSequence parts next code
  | choice parts, next, code => writeChoice parts next code

/-- Write expressions one after the other. -/
def writeSequence : List Pattern → Nat → Code → Nat × Code
  | [], next, code => (next, code)
  | p :: rest, next, code =>
    let (entry, code) := writeSequence rest next code
    write p entry code

/-- Write expressions beside each other. -/
def writeChoice : List Pattern → Nat → Code → Nat × Code
  | [], next, code => (next, code)
  | [p], next, code => write p next code
  | p :: rest, next, code =>
    let (second, code) := writeChoice rest next code
    let (first, code) := write p next code
    code.emit (.branch first second)

end

/-! ## Size -/

/-- What a set costs: a character one step for each byte it is encoded by, an
ASCII set one step, and any other set several steps for each range. -/
def setCost (s : CharSet) : Nat :=
  match s.ranges with
  | [(low, high)] =>
    if low = high then 32 * (Text.Utf8.encode [Char.ofNat low]).length
    else if high < 128 then 40 else 300
  | ranges => if s.isAscii then 32 + 8 * ranges.length else 68 * ranges.length

mutual

/-- What the code of an expression costs. -/
def cost : Pattern → Nat
  | empty => 0
  | set s | bracketed _ s => setCost s
  | assert _ => 32
  | repeated least most _ body =>
    let (least, most) := body.boundRepeats least most
    match most with
    | some most => least * body.cost + (most - least) * (body.cost + 48)
    | none => max least 1 * body.cost + 96
  | group _ body => body.cost + 64
  | sequence parts => costAll parts
  | choice parts => costAll parts + 32

/-- What the code of several expressions costs. -/
def costAll : List Pattern → Nat
  | [] => 0
  | p :: rest => p.cost + 16 + costAll rest

end

end Pattern

/-- How much the code of an expression may cost. -/
def costLimit : Nat := 10485760

/-- A program for an expression. -/
structure Program where
  code : Code
  /-- The first instruction. -/
  entry : Nat
  names : List (List Char × Nat)

/-- The program of an expression; slot zero and one record the whole match. -/
def Expression.program (r : Expression) : Program :=
  let (last, code) := Code.emit #[] .accept
  let (last, code) := code.emit (.record 1 last)
  let (entry, code) := r.pattern.write last code
  let (entry, code) := code.emit (.record 0 entry)
  ⟨code, entry, r.names⟩

end Folio.Regex
