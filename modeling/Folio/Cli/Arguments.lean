import Folio.Text.Ascii
import Folio.Text.Search

/-!
# Folio.Cli.Arguments

Reading command lines.  A word is an option, the value of the option before it,
or a positional argument; two hyphens alone make all further words positional.
An option is stored when the next one or a positional argument comes, or at the
end, so that is when its value is looked at.
-/

namespace Folio.Cli

open Folio.Text

/-- Why a command line cannot be carried out. -/
inductive UsageError where
  /-- Help was asked for. -/
  | help
  /-- There is nothing on the command line. -/
  | nothing
  /-- There are options, but no command. -/
  | missingCommand
  | unknownCommand
  | unknownArgument
  | missingArgument
  /-- The value of an option is not of its kind. -/
  | unreadableValue
  /-- An option has no value. -/
  | emptyValue
  /-- An option that takes no value has one. -/
  | unneededValue
  | repeatedOption
deriving DecidableEq, Repr

/-- What the value of an option may be. -/
inductive ValueKind where
  | text
  /-- A text that is not empty. -/
  | path
  /-- A natural number up to a bound. -/
  | natural (most : Nat)
  /-- An integer from zero up to a bound, which may be written with a minus
  sign if it is zero. -/
  | integer (most : Nat)
deriving DecidableEq, Repr

/-- An option, which always takes a value. -/
structure Opt where
  name : String
  /-- The letter that stands for it after a single hyphen. -/
  letter : Option Char
  kind : ValueKind
deriving DecidableEq, Repr

/-- What a command takes. -/
structure Grammar where
  options : List Opt
  /-- How many positional arguments it takes; all are required. -/
  positionals : Nat
deriving DecidableEq, Repr

/-- The value can be read. -/
def ValueKind.check (kind : ValueKind) (value : String) : Except UsageError Unit :=
  match kind with
  | text => .ok ()
  | path => if value.isEmpty then .error .emptyValue else .ok ()
  | natural most =>
    if (naturalUpTo? most value.toList).isSome then .ok () else .error .unreadableValue
  | integer most =>
    if (integerWithin? 0 most value.toList).isSome then .ok () else .error .unreadableValue

/-- What has been read of a command line. -/
structure Reading where
  /-- The values of options by their names. -/
  values : List (String × String) := []
  /-- The last option and its value, which is not stored yet or still to
  come. -/
  pending : Option (Opt × Option String) := none
  /-- The positional arguments, the latest first. -/
  positionals : List String := []
  /-- All further words are positional. -/
  trailing : Bool := false

namespace Reading

/-- The last option still needs its value. -/
def isAwaiting (r : Reading) : Bool :=
  match r.pending with
  | some (_, none) => !r.trailing
  | _ => false

/-- Store the value of an option, which may be given once. -/
def put (r : Reading) (option : Opt) (value : String) : Except UsageError Reading :=
  if (r.values.lookup option.name).isSome then .error .repeatedOption
  else do
    option.kind.check value
    return { r with values := (option.name, value) :: r.values }

/-- Store the last option. -/
def settle (r : Reading) : Except UsageError Reading :=
  match r.pending with
  | none => .ok r
  | some (_, none) => .error .emptyValue
  | some (option, some value) => put { r with pending := none } option value

/-- Go on after an option whose value may be attached to it. -/
def withOption (r : Reading) (option : Opt) (attached : Option String) :
    Except UsageError Reading := do
  let r ← r.settle
  match attached with
  | some value => r.put option value
  | none => return { r with pending := some (option, none) }

/-- Help was asked for, but the last option comes first. -/
def helped (r : Reading) : Except UsageError Reading := do
  let _ ← r.settle
  throw .help

/-- Go on after a word that begins with two hyphens. -/
def withLong (g : Grammar) (r : Reading) (word : List Char) : Except UsageError Reading :=
  let (name, value) := match cut? ['='] word with
    | some (name, value) => (String.ofList name, some (String.ofList value))
    | none => (String.ofList word, none)
  if name = "help" then if value.isSome then .error .unneededValue else r.helped
  else
    match g.options.find? (·.name == name) with
    | some option => r.withOption option value
    | none => .error .unknownArgument

/-- Go on after a word that begins with one hyphen and a letter. -/
def withShort (g : Grammar) (r : Reading) (letter : Char) (rest : List Char) :
    Except UsageError Reading :=
  if letter = 'h' then r.helped
  else
    match g.options.find? (·.letter == some letter) with
    | some option =>
      let value := match rest with
        | [] => none
        | '=' :: value => some (String.ofList value)
        | value => some (String.ofList value)
      r.withOption option value
    | none => .error .unknownArgument

/-- Go on after a word that is no option: the value of the last option, or a
positional argument. -/
def withWord (g : Grammar) (r : Reading) (word : String) : Except UsageError Reading :=
  match r.pending, r.isAwaiting with
  | some (option, _), true => .ok { r with pending := some (option, some word) }
  | _, _ =>
    if r.positionals.length < g.positionals then do
      let r ← r.settle
      return { r with positionals := word :: r.positionals }
    else .error .unknownArgument

/-- Go on after a word. -/
def next (g : Grammar) (r : Reading) (word : String) : Except UsageError Reading :=
  if r.trailing then r.withWord g word
  else
    match word.toList with
    | ['-', '-'] => .ok { r with trailing := true }
    | '-' :: '-' :: rest => r.withLong g rest
    | '-' :: letter :: rest => r.withShort g letter rest
    | _ => r.withWord g word

/-- Read the words that follow the name of a command. -/
def readAll (g : Grammar) (r : Reading) (words : List String) : Except UsageError Reading := do
  let r ← words.foldlM (next g) r
  let r ← r.settle
  if r.positionals.length < g.positionals then throw .missingArgument
  return r

/-- The value of an option. -/
def value? (r : Reading) (name : String) : Option String := r.values.lookup name

/-- The value of an option that is a number. -/
def number? (r : Reading) (name : String) : Option Nat :=
  (r.value? name).bind fun value => (integer? value.toList).map Int.toNat

end Reading

end Folio.Cli
