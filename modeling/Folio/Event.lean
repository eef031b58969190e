import Folio.Failure
import Folio.Rule.Failure
import Folio.Script.Binding

/-!
# Folio.Event

What happens on the way to a result: reports of what went wrong without
stopping anything, the messages and the evaluations of scripts, and the pages
that were requested.  An operation is a value together with its events, in
their order (`Traced`).

A rule can also stop the program (`Event.isStop`).  Operations are carried on
behind such an event as if the alternative of the rule had failed, but the
program does not get there: an operation that `stops` has no value, and what is
recorded behind the first stop does not happen.
-/

namespace Folio

/-- How important the message of a script is. -/
inductive LogLevel where
  | info
  | debug
deriving DecidableEq, Repr

/-- Something that happened. -/
inductive Event where
  /-- An alternative of a rule could not be evaluated; its body. -/
  | ruleFailed (failure : Rule.Failure) (rule : String)
  | scriptFailed
  /-- A script wrote a message. -/
  | scriptLog (level : LogLevel) (text : String)
  /-- A page declared an unknown charset. -/
  | unknownCharset (label : String)
  /-- A page was decoded by another encoding than the one declared. -/
  | fallbackCharset (encoding : String)
  /-- A keyword has characters that its charset cannot encode. -/
  | unencodableKeyword (charset : String)
  /-- A header of request options has a value that is no scalar. -/
  | headerIgnored (header : String)
  /-- The headers of a source are no JSON object. -/
  | badSourceHeader (source : String)
  /-- A replacement of a source is no regular expression. -/
  | badReplacement (pattern : String)
  /-- A source could not be searched. -/
  | searchFailed (source : String) (failure : Failure)
  /-- No more pages of a table of contents may be read. -/
  | tocPageCap (pages : Nat)
  /-- A later page of a table of contents could not be read. -/
  | tocStopped (url : String) (failure : Failure)
  /-- No more pages of a chapter may be read. -/
  | contentPageCap (pages : Nat)
  /-- A page of a chapter could not be read. -/
  | contentFailed (url : String) (failure : Failure)
  /-- The link to the next page leads to a page already read or to the next
  chapter. -/
  | contentEnd (next : String)
  /-- A script was evaluated. -/
  | evaluated (script : String) (bindings : Script.Bindings)
  /-- A page was requested. -/
  | requested (method url : String) (body : Option String)
  /-- Time passed, in milliseconds. -/
  | waited (milliseconds : Nat)
deriving DecidableEq, Repr

/-- The program stops at this event. -/
def Event.isStop : Event → Bool
  | .ruleFailed failure _ => failure.isStop
  | _ => false

/-- A value and the events on the way to it. -/
structure Traced (α : Type) where
  value : α
  events : List Event

namespace Traced

variable {α β : Type}

/-- A value that nothing happened on the way to. -/
def of (value : α) : Traced α := ⟨value, []⟩

/-- Go on from a value; the events of both parts, one after the other. -/
def andThen (t : Traced α) (f : α → Traced β) : Traced β :=
  let next := f t.value
  ⟨next.value, t.events ++ next.events⟩

instance : Monad Traced where
  pure := of
  bind := andThen

/-- An event. -/
def emit (e : Event) : Traced Unit := ⟨(), [e]⟩

@[simp] theorem value_pure (a : α) : (pure a : Traced α).value = a := rfl

@[simp] theorem events_pure (a : α) : (pure a : Traced α).events = [] := rfl

@[simp] theorem value_bind (t : Traced α) (f : α → Traced β) :
    (t >>= f).value = (f t.value).value := rfl

@[simp] theorem events_bind (t : Traced α) (f : α → Traced β) :
    (t >>= f).events = t.events ++ (f t.value).events := rfl

/-- The program stops on the way. -/
def stops (t : Traced α) : Bool := t.events.any Event.isStop

/-- An operation as a task of its own.  A stop ends the task without a value,
and the program goes on. -/
def asTask (t : Traced (Option α)) : Traced (Option α) :=
  if t.stops then ⟨none, t.events.takeWhile fun e => !e.isStop⟩ else t

/-- Apply an operation to each item, in their order. -/
def forEach (f : α → Traced β) : List α → Traced (List β)
  | [] => pure []
  | a :: rest => do
    let b ← f a
    let others ← forEach f rest
    pure (b :: others)

/-- The results of an operation on each item, joined in their order. -/
def flatEach (f : α → Traced (List β)) (items : List α) : Traced (List β) := do
  let results ← forEach f items
  pure results.flatten

end Traced

end Folio
