import Folio.Event
import Folio.Script.Native
import Folio.Script.Envelope

/-!
# Folio.Script.Evaluator

Running scripts.  An evaluator is any function from a script and its bindings
to a value or a failure; it keeps nothing from one script to the next.  Where a
rule runs a script, a failure is reported and the result is empty.
-/

namespace Folio.Script

open Folio.Text

/-- What evaluates scripts. -/
abbrev Evaluator := String → Bindings → Traced (Except Failure Value)

namespace Evaluator

/-- Evaluate a script. -/
def evaluate (e : Evaluator) (script : String) (bindings : Bindings) :
    Traced (Except Failure Value) := do
  Traced.emit (.evaluated script bindings)
  e script bindings

/-- Evaluate a script without the blanks around it; a failure gives an empty
value. -/
def run (e : Evaluator) (script : String) (bindings : Bindings) : Traced Value := do
  match ← e.evaluate (trimmed script) bindings with
  | .ok value => pure value
  | .error _ => do
    Traced.emit .scriptFailed
    pure .empty

/-- Evaluate the first script that is marked in a text, or the whole text when
none is. -/
def runMarked (e : Evaluator) (text : String) (bindings : Bindings) : Traced Value :=
  match Envelope.find? false text.toList with
  | some envelope => e.run (String.ofList envelope.script) bindings
  | none => e.run text bindings

end Evaluator

end Folio.Script
