import Folio.Script.Evaluator
import Folio.Script.Machine

/-!
# Folio.Script.Engine

The evaluator of scripts.  A script runs in a scope with `result`, which it may
change, and the constants `baseUrl` and the variables; what it returns is a
text, a list of texts, or nothing.
-/

namespace Folio.Script

/-- The value of `result`. -/
def Input.datum : Input → Datum
  | text content => .text content
  | list items => .array (items.map .text)

/-- A scope that variables are bound in, one after the other. -/
def initialScope (b : Bindings) (m : Machine) : Machine :=
  let m := m.bind false "result" b.result.datum
  let m := m.bind true "baseUrl" (.text b.baseUrl)
  b.vars.foldl (fun m (name, value) => m.bind true name (.text value)) m

/-- What a script returns. -/
def Datum.result : Datum → Value
  | .unit => .empty
  | .array items => .list (items.map shown)
  | d => .text d.shown

/-- More steps than any run that keeps to a limit of operations takes. -/
def stepBound (limits : Limits) : Nat :=
  let bound := 20000000
  if limits.operations = 0 then bound else min bound (64 * limits.operations + 100000)

/-- The state in which a script begins. -/
def start (limits : Limits) (b : Bindings) (program : Program) : Machine :=
  (initialScope b
    { limits, scope := [], cells := #[], functions := program.functions, messages := [],
      operations := 0, level := 0, control := .value .unit, frames := [] }).sequence program.body

/-- Evaluate scripts within limits. -/
def engine (limits : Limits) : Evaluator := fun script b =>
  match Program.read? limits.textSize script with
  | none => pure (.error .evaluation)
  | some program =>
    match (start limits b program).run (stepBound limits) with
    | (.value d, messages) => ⟨.ok d.result, messages⟩
    | (.failed, messages) => ⟨.error .evaluation, messages⟩

/-- The limits that are kept where none are set. -/
def Limits.standard : Limits := ⟨200000, 4194304⟩

end Folio.Script
