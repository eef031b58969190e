import Folio.Cli.Arguments

/-!
# Folio.Cli.Invocation

The commands of the program and how they are given.  The number of workers and
the file of the sources may stand before the command or after it; what stands
after it counts.
-/

namespace Folio.Cli

/-- What the program is to do. -/
inductive Command where
  /-- Search all sources for a keyword. -/
  | search (keyword : String)
  /-- List the sources. -/
  | sources
  /-- List the explore menu of a source. -/
  | menu (source : String)
  /-- Show a page of an entry of an explore menu. -/
  | explore (source entry : String) (page : Nat)
  /-- Show what the page of a book tells. -/
  | info (source bookUrl : String)
  /-- List the chapters of a book. -/
  | toc (source bookUrl : String)
  /-- Show the text of a chapter, which ends where the next one begins. -/
  | content (source chapterUrl : String) (next : Option String)
deriving DecidableEq, Repr

/-- A command and what holds for all commands. -/
structure Invocation where
  workers : Option Nat
  /-- The file of the sources. -/
  sources : Option String
  command : Command
deriving DecidableEq, Repr

/-- The options that all commands take. -/
def commonOptions : List Opt :=
  [⟨"workers", some 'w', .natural (Nat.pow 2 64 - 1)⟩, ⟨"sources", some 's', .path⟩]

/-- What stands before the command. -/
def programGrammar : Grammar := ⟨commonOptions, 0⟩

/-- The commands and what each takes. -/
def commands : List (String × Grammar) := [
  ("search", ⟨commonOptions, 1⟩),
  ("sources", ⟨⟨"explore", none, .text⟩ :: commonOptions, 0⟩),
  ("explore", ⟨⟨"page", some 'p', .integer (Nat.pow 2 32 - 1)⟩ :: commonOptions, 2⟩),
  ("info", ⟨commonOptions, 2⟩),
  ("toc", ⟨commonOptions, 2⟩),
  ("content", ⟨⟨"next", none, .text⟩ :: commonOptions, 2⟩)]

/-- The command that has been read. -/
def command? (name : String) (r : Reading) : Option Command :=
  match name, r.positionals.reverse with
  | "search", [keyword] => some (.search keyword)
  | "sources", [] => some (((r.value? "explore").map .menu).getD .sources)
  | "explore", [source, entry] => some (.explore source entry ((r.number? "page").getD 1))
  | "info", [source, bookUrl] => some (.info source bookUrl)
  | "toc", [source, bookUrl] => some (.toc source bookUrl)
  | "content", [source, chapterUrl] => some (.content source chapterUrl (r.value? "next"))
  | _, _ => none

/-- Help for a command, or for the program. -/
def helpFor : List String → UsageError
  | [] => .help
  | ["help"] => .help
  | [name] => if (commands.lookup name).isSome then .help else .unknownCommand
  | _ => .unknownCommand

/-- The words after the name of a command; `before` is what was read before
it. -/
def readCommand (before : Reading) (name : String) (grammar : Grammar) (words : List String) :
    Except UsageError Invocation := do
  let r ← Reading.readAll grammar {} words
  let before ← before.settle
  match command? name r with
  | none => throw .missingArgument
  | some command =>
    return {
      workers := r.number? "workers" <|> before.number? "workers"
      sources := r.value? "sources" <|> before.value? "sources"
      command }

/-- A word where only a command may stand. -/
def notCommand (r : Reading) (word : String) : UsageError :=
  if r.trailing && (word == "help" || (commands.lookup word).isSome) then .unknownArgument
  else .unknownCommand

/-- Nothing more follows what was read before a command. -/
def withoutCommand (r : Reading) : UsageError :=
  match r.settle with
  | .error e => e
  | .ok r => if r.values.isEmpty then .nothing else .missingCommand

/-- The word is no option: it stands alone as a hyphen, or has none. -/
def isPlain (word : String) : Bool := word == "-" || word.toList.head? != some '-'

/-- Read the words up to a command and from it on. -/
def readProgram (r : Reading) : List String → Except UsageError Invocation
  | [] => .error (withoutCommand r)
  | word :: words =>
    if r.trailing then .error (notCommand r word)
    else if !isPlain word || r.isAwaiting then do
      readProgram (← r.next programGrammar word) words
    else if word = "help" then .error (helpFor words)
    else
      match commands.lookup word with
      | some grammar => readCommand r word grammar words
      | none => .error (notCommand r word)

/-- Read a command line. -/
def read (words : List String) : Except UsageError Invocation := readProgram {} words

end Folio.Cli
