import Folio.Proofs.Rule.Expr
import Folio.Rule.Evaluation

/-!
# Folio.Proofs.Rule.Evaluation

The scripts that evaluating a rule runs.  Whatever the subject is, and whatever
scripts return, only the scripts of the rule are run: what a script returns is
the subject of a rule, and never read as one.
-/

namespace Folio.Rule

open Folio.Script

variable {e : Evaluator} {P : String → Prop}

/-! ## Parts of rules -/

theorem runsOnly_firstResults {α : Type} (evaluate : Alternative → Except Failure (List α))
    (alternatives : List Alternative) : (firstResults evaluate alternatives).RunsOnly e P := by
  induction alternatives with
  | nil => exact .pure []
  | cons a rest ih =>
      rw [firstResults]
      split
      · exact ih
      · exact .pure _
      · exact (Traced.RunsOnly.emit rfl).bind ih

theorem runsOnly_scriptOutput {script : String} (h : P (Text.trimmed script)) (input : Input)
    (base : String) : (scriptOutput e script input base).RunsOnly e P :=
  (Traced.RunsOnly.run h _).bind (.pure _)

/-- A rule works on each of the items that a script returns. -/
theorem runsOnly_tail {α β : Type} {f : Expr → α → Traced (List β)} {tail : Option Expr}
    (results : List β) (items : List α) :
    (∀ rule, tail = some rule → ∀ a, (f rule a).RunsOnly e P) →
      Traced.RunsOnly e P (match tail with
        | none => pure results
        | some rule => Traced.flatEach (f rule) items) := by
  intro h
  cases tail with
  | none => exact .pure results
  | some rule => exact .flatEach (h rule rfl) items

section Scripted

variable {head tail : Option Expr} {rule : Expr} {script : String} {α : Type} {t : Traced α}

theorem runsOnly_of_head (h : t.RunsOnly e rule.Runs) (hhead : head = some rule) :
    t.RunsOnly e (Expr.scripted head script tail).Runs := by
  subst hhead
  refine h.mono ?_
  rintro other ⟨own, hown, rfl⟩
  exact ⟨own, .inHead hown, rfl⟩

theorem runsOnly_of_tail (h : t.RunsOnly e rule.Runs) (htail : tail = some rule) :
    t.RunsOnly e (Expr.scripted head script tail).Runs := by
  subst htail
  refine h.mono ?_
  rintro other ⟨own, hown, rfl⟩
  exact ⟨own, .inTail hown, rfl⟩

end Scripted

/-- **Scripts of a selection.**  Selecting subjects by a rule runs its scripts only. -/
theorem Expr.runsOnly_elements (e : Evaluator) (base : String) (rule : Expr) (s : Subject) :
    (rule.elements e base s).RunsOnly e rule.Runs := by
  induction rule using Expr.induction generalizing s with
  | alternatives list => exact runsOnly_firstResults _ list
  | scripted head script tail ihHead ihTail =>
      have hscript (input : Input) : (scriptOutput e script input base).RunsOnly e
          (Expr.scripted head script tail).Runs :=
        runsOnly_scriptOutput ⟨script, .here, rfl⟩ input base
      have htail (rule : Expr) (heq : tail = some rule) (s : Subject) :
          (rule.elements e base s).RunsOnly e (Expr.scripted head script tail).Runs :=
        runsOnly_of_tail (ihTail rule heq s) heq
      cases head with
      | none =>
          rw [Expr.elements]
          exact (Traced.RunsOnly.pure _).bind ((hscript _).bind (runsOnly_tail _ _ htail))
      | some head =>
          rw [Expr.elements]
          exact (runsOnly_of_head (ihHead head rfl s) rfl).bind
            ((Traced.RunsOnly.pure _).bind ((hscript _).bind (runsOnly_tail _ _ htail)))

/-- **Scripts of an extraction.**  Extracting texts by a rule runs its scripts only. -/
theorem Expr.runsOnly_texts (e : Evaluator) (base : String) (r : Render) (rule : Expr)
    (s : Subject) : (rule.texts e base r s).RunsOnly e rule.Runs := by
  induction rule using Expr.induction generalizing s with
  | alternatives list => exact runsOnly_firstResults _ list
  | scripted head script tail ihHead ihTail =>
      have hscript (input : Input) : (scriptOutput e script input base).RunsOnly e
          (Expr.scripted head script tail).Runs :=
        runsOnly_scriptOutput ⟨script, .here, rfl⟩ input base
      have htail (rule : Expr) (heq : tail = some rule) (text : String) :
          (rule.texts e base r (.text text)).RunsOnly e (Expr.scripted head script tail).Runs :=
        runsOnly_of_tail (ihTail rule heq _) heq
      cases head with
      | none =>
          rw [Expr.texts]
          exact (Traced.RunsOnly.pure _).bind ((hscript _).bind (runsOnly_tail _ _ htail))
      | some head =>
          rw [Expr.texts]
          exact (runsOnly_of_head (ihHead head rfl s) rfl).bind
            ((Traced.RunsOnly.pure _).bind ((hscript _).bind (runsOnly_tail _ _ htail)))

/-! ## Rules as they are written -/

section Written

variable (e) (base : String) (s : Subject) (rule : String)

theorem runsOnly_elements : (elements e base s rule).RunsOnly e (IsPartOf rule) := by
  rw [elements]
  split
  · exact .pure []
  · exact (Expr.runsOnly_elements e base _ s).mono fun _ => isPartOf_of_runs

theorem runsOnly_texts : (texts e base s rule).RunsOnly e (IsPartOf rule) :=
  (Expr.runsOnly_texts e base .text _ s).mono fun _ => isPartOf_of_runs

theorem runsOnly_text : (text e base s rule).RunsOnly e (IsPartOf rule) :=
  (runsOnly_texts e base s rule).bind (.pure _)

theorem runsOnly_url : (url e base s rule).RunsOnly e (IsPartOf rule) :=
  (runsOnly_text e base s rule).bind (.pure _)

/-- The default leaf makes no script of a rule. -/
theorem runsOnly_markup_withDefaultLeaf :
    (markup e base s (withDefaultLeaf rule "html")).RunsOnly e (IsPartOf rule) := by
  have htexts :=
    (Expr.runsOnly_texts e base .markup (Expr.read (withDefaultLeaf rule "html")) s).mono
      fun _ => isPartOf_of_runs_withDefaultLeaf
  exact htexts.bind (.pure _)

/-- The blanks around a rule make no difference to what it selects. -/
theorem elements_congr {rule other : String} (h : Text.trim rule.toList = Text.trim other.toList) :
    elements e base s rule = elements e base s other := by
  rw [elements, elements, Text.isBlankText_congr h, Expr.read, Expr.read, readChars_congr h]

end Written

end Folio.Rule
