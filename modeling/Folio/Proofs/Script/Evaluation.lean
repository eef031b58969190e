import Folio.Proofs.Text.Search
import Folio.Script.Evaluator

/-!
# Folio.Proofs.Script.Evaluation

Which scripts an operation runs.  Every script that is handed to an evaluator
leaves an event, so that what an operation runs is read off its events; an
operation built from others runs what its parts run.
-/

namespace Folio

open Folio.Text

/-- The event tells that a script was evaluated. -/
def Event.isEvaluation : Event → Bool
  | .evaluated .. => true
  | _ => false

/-- The evaluator reports no evaluations itself. -/
def Script.Evaluator.IsSilent (e : Script.Evaluator) : Prop :=
  ∀ script bindings, ∀ event ∈ (e script bindings).events, event.isEvaluation = false

namespace Traced

/-- The operation hands only scripts with the property to the evaluator: they
are all that it reports as evaluated, but for what the evaluator reports itself
while it runs one of them. -/
def RunsOnly {α : Type} (e : Script.Evaluator) (P : String → Prop) (t : Traced α) : Prop :=
  ∀ script bindings, Event.evaluated script bindings ∈ t.events →
    P script ∨ ∃ run given, P run ∧ Event.evaluated script bindings ∈ (e run given).events

namespace RunsOnly

variable {α β : Type} {e : Script.Evaluator} {P Q : String → Prop} {t : Traced α}

/-- What evaluates nothing runs nothing. -/
theorem of_events (h : ∀ event ∈ t.events, event.isEvaluation = false) : t.RunsOnly e P := by
  intro script bindings hmem
  have hfalse := h _ hmem
  contradiction

/-- Where the evaluator is silent, all that is reported as evaluated was handed
over. -/
theorem iff_of_isSilent (h : e.IsSilent) :
    t.RunsOnly e P ↔
      ∀ script bindings, Event.evaluated script bindings ∈ t.events → P script := by
  constructor
  · intro ht script bindings hmem
    rcases ht script bindings hmem with hscript | ⟨run, given, -, htold⟩
    · exact hscript
    · have hfalse := h run given _ htold
      contradiction
  · exact fun ht script bindings hmem => Or.inl (ht script bindings hmem)

/-- A value that is only returned runs nothing. -/
theorem pure (a : α) : (Pure.pure a : Traced α).RunsOnly e P := of_events (by simp)

/-- An event that is no evaluation runs nothing. -/
theorem emit {event : Event} (h : event.isEvaluation = false) :
    (Traced.emit event).RunsOnly e P := by
  refine of_events ?_
  intro other hother
  rw [List.mem_singleton.mp hother]
  exact h

/-- One after the other they run what both run. -/
theorem bind {f : α → Traced β} (ht : t.RunsOnly e P) (hf : (f t.value).RunsOnly e P) :
    (t >>= f).RunsOnly e P := by
  intro script bindings hmem
  rw [events_bind] at hmem
  rcases List.mem_append.mp hmem with hmem | hmem
  · exact ht script bindings hmem
  · exact hf script bindings hmem

/-- What is made of the value runs nothing. -/
theorem map {f : α → β} (ht : t.RunsOnly e P) : (f <$> t).RunsOnly e P :=
  ht.bind (pure (f t.value))

/-- More may be said of the scripts that are run. -/
theorem mono (ht : t.RunsOnly e P) (h : ∀ script, P script → Q script) : t.RunsOnly e Q := by
  intro script bindings hmem
  rcases ht script bindings hmem with hscript | ⟨run, given, hrun, htold⟩
  · exact Or.inl (h script hscript)
  · exact Or.inr ⟨run, given, h run hrun, htold⟩

/-- Doing the same for each item runs what it runs for one. -/
theorem forEach {f : α → Traced β} (hf : ∀ a, (f a).RunsOnly e P) (items : List α) :
    (Traced.forEach f items).RunsOnly e P := by
  induction items with
  | nil => exact pure []
  | cons a items ih => exact (hf a).bind (ih.bind (pure _))

/-- So does joining what each item gives. -/
theorem flatEach {f : α → Traced (List β)} (hf : ∀ a, (f a).RunsOnly e P) (items : List α) :
    (Traced.flatEach f items).RunsOnly e P :=
  (forEach hf items).bind (pure _)

/-- A script is handed over without the blanks around it. -/
theorem run {script : String} (h : P (trimmed script)) (bindings : Script.Bindings) :
    (e.run script bindings).RunsOnly e P := by
  have hevaluate : (e.evaluate (trimmed script) bindings).RunsOnly e P := by
    intro other given hmem
    rw [Script.Evaluator.evaluate, events_bind] at hmem
    rcases List.mem_append.mp hmem with hmem | hmem
    · obtain ⟨rfl, -⟩ := Event.evaluated.inj (List.mem_singleton.mp hmem)
      exact Or.inl h
    · exact Or.inr ⟨trimmed script, bindings, h, hmem⟩
  refine hevaluate.bind ?_
  split
  · exact pure _
  · exact (emit rfl).bind (pure _)

end RunsOnly

end Traced

/-! ## Evaluations in their order -/

/-- The script that was evaluated. -/
def Event.script? : Event → Option String
  | .evaluated script _ => some script
  | _ => none

theorem Event.script?_of_isEvaluation {event : Event} (h : event.isEvaluation = false) :
    event.script? = none := by
  cases event with
  | evaluated script bindings => contradiction
  | _ => rfl

namespace Traced

variable {α β : Type}

/-- The scripts that an operation has evaluated, in their order. -/
def evaluations (t : Traced α) : List String := t.events.filterMap Event.script?

@[simp] theorem evaluations_pure (a : α) : (Pure.pure a : Traced α).evaluations = [] := rfl

/-- Evaluations come one after the other. -/
@[simp] theorem evaluations_bind (t : Traced α) (f : α → Traced β) :
    (t >>= f).evaluations = t.evaluations ++ (f t.value).evaluations := by
  rw [evaluations, events_bind, List.filterMap_append]
  rfl

/-- Running a script evaluates it once. -/
theorem evaluations_run {e : Script.Evaluator} (h : e.IsSilent) (script : String)
    (bindings : Script.Bindings) : (e.run script bindings).evaluations = [trimmed script] := by
  have hnone : (e (trimmed script) bindings).evaluations = [] :=
    List.filterMap_eq_nil_iff.mpr fun event hevent =>
      Event.script?_of_isEvaluation (h (trimmed script) bindings event hevent)
  have hone : (e.evaluate (trimmed script) bindings).evaluations = [trimmed script] := by
    rw [Script.Evaluator.evaluate, evaluations_bind, hnone]
    rfl
  rw [Script.Evaluator.run, evaluations_bind, hone]
  split <;> rfl

end Traced

namespace Script

/-- The script is a piece of the text without the blanks around it. -/
def IsPartOf (text script : String) : Prop :=
  ∃ piece, piece <:+: text.toList ∧ script = String.ofList (trim piece)

/-- A trimmed piece of a text is a part of it. -/
theorem isPartOf_trimmed {text : String} {piece : List Char} (h : piece <:+: text.toList) :
    IsPartOf text (trimmed (String.ofList piece)) := by
  refine ⟨piece, h, ?_⟩
  rw [trimmed, String.toList_ofList]

end Script

end Folio
