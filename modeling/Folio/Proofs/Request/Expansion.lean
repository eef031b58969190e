import Folio.Proofs.Event
import Folio.Proofs.Script.Envelope
import Folio.Proofs.Script.Evaluation
import Folio.Request.Template

/-!
# Folio.Proofs.Request.Expansion

Scripts in braces.  Every pass over a template runs the script in the first braces
and leaves a text whose front is finished; where no output opens an envelope, the
next pass finds the next braces.  So the scripts of a template are run in their
order and their outputs stand in their places, as far as the passes reach
(`runScripts_interpolated`).
-/

namespace Folio.Request

open Folio.Text Folio.Script

/-- A script in braces and the text in front of it. -/
structure Interpolation where
  lead : List Char
  script : List Char

/-- The text as it stands in a template. -/
def Interpolation.text (piece : Interpolation) : List Char :=
  piece.lead ++ (Envelope.namedOpening ++ (piece.script ++ Envelope.bracesClosing))

/-- A template of scripts in braces, with a text behind the last. -/
def interpolated (pieces : List Interpolation) (last : List Char) : List Char :=
  pieces.flatMap Interpolation.text ++ last

/-- A text, and behind it the leads with the outputs of the scripts between them.  A script
is given all that stands before its output. -/
def expanded (e : Evaluator) (baseUrl : String) (query : Query) (front : List Char) :
    List Interpolation → Traced (List Char)
  | [] => pure front
  | piece :: rest => do
    let before := front ++ piece.lead
    let output ← e.run (String.ofList piece.script) (scriptBindings baseUrl query before)
    expanded e baseUrl query (before ++ output.intoText.toList) rest

variable {e : Evaluator} {baseUrl : String} {query : Query} {front last : List Char}
variable {pieces : List Interpolation}

theorem interpolated_cons (piece : Interpolation) (rest : List Interpolation)
    (last : List Char) :
    interpolated (piece :: rest) last =
      piece.lead ++ (Envelope.namedOpening ++
        (piece.script ++ (Envelope.bracesClosing ++ interpolated rest last))) := by
  simp only [interpolated, List.flatMap_cons, Interpolation.text, List.append_assoc]

/-- What is finished stays in front. -/
theorem isPrefix_value_expanded (front : List Char) (pieces : List Interpolation) :
    front <+: (expanded e baseUrl query front pieces).value := by
  induction pieces generalizing front with
  | nil => exact List.prefix_refl front
  | cons piece rest ih =>
      rw [expanded, Traced.value_bind]
      refine List.IsPrefix.trans ?_ (ih _)
      rw [List.append_assoc]
      exact List.prefix_append front _

/-- Each script is evaluated once, in its turn. -/
theorem evaluations_expanded (h : e.IsSilent) (front : List Char) (pieces : List Interpolation) :
    (expanded e baseUrl query front pieces).evaluations =
      pieces.map fun piece => trimmed (String.ofList piece.script) := by
  induction pieces generalizing front with
  | nil => rfl
  | cons piece rest ih =>
      simp [expanded, Traced.evaluations_run h, ih]

/-- **One pass.**  It runs the first script and puts its output behind what is finished. -/
theorem runScripts_succ_interpolated (count : Nat) {piece : Interpolation}
    (hfront : ∀ opening ∈ Envelope.openings, ¬opening <:+: front ++ piece.lead)
    (hscript : '\x7d' ∉ piece.script) (rest : List Interpolation) (last : List Char) :
    runScripts e baseUrl query (count + 1) (front ++ interpolated (piece :: rest) last) =
      (e.run (String.ofList piece.script) (scriptBindings baseUrl query (front ++ piece.lead)) >>=
        fun output => runScripts e baseUrl query count
          (front ++ piece.lead ++ output.intoText.toList ++ interpolated rest last)) := by
  have hfind := Envelope.find?_of_named hfront hscript (interpolated rest last)
  rw [interpolated_cons, ← List.append_assoc, runScripts, hfind]
  rfl

/-- **Passes.**  As many scripts are run as there are passes; the braces behind them are left
as they are. -/
theorem runScripts_append_interpolated (count : Nat)
    (hscripts : ∀ piece ∈ pieces, '\x7d' ∉ piece.script)
    (hopen : ∀ opening ∈ Envelope.openings,
      ¬opening <:+: (expanded e baseUrl query front pieces).value) :
    runScripts e baseUrl query count (front ++ interpolated pieces last) =
      (expanded e baseUrl query front (pieces.take count) >>= fun text =>
        runScripts e baseUrl query (count - pieces.length)
          (text ++ interpolated (pieces.drop count) last)) := by
  induction pieces generalizing count front with
  | nil => rw [List.take_nil, List.drop_nil]; rfl
  | cons piece rest ih =>
      cases count with
      | zero => rw [Nat.zero_sub]; rfl
      | succ count =>
          obtain ⟨hscript, hscripts⟩ := List.forall_mem_cons.mp hscripts
          have hlead : ∀ opening ∈ Envelope.openings, ¬opening <:+: front ++ piece.lead := by
            intro opening hopening hinside
            refine hopen opening hopening (hinside.trans ?_)
            rw [expanded, Traced.value_bind]
            exact ((List.prefix_append _ _).trans (isPrefix_value_expanded _ _)).isInfix
          rw [runScripts_succ_interpolated count hlead hscript, List.take_succ_cons,
            List.drop_succ_cons, List.length_cons, Nat.add_sub_add_right, expanded,
            Traced.bind_assoc]
          exact Traced.bind_congr (ih count hscripts hopen)

theorem runScripts_of_lacks {s : List Char} (count : Nat)
    (hopen : ∀ opening ∈ Envelope.openings, ¬opening <:+: s) :
    runScripts e baseUrl query count s = pure s := by
  have hfind : Envelope.find? false s = none := by
    rw [← Option.not_isSome_iff_eq_none]
    intro hsome
    obtain ⟨envelope, henvelope⟩ := Option.isSome_iff_exists.mp hsome
    obtain ⟨opening, hopening, closing, hs⟩ := Envelope.exists_opening henvelope
    refine hopen opening hopening ?_
    rw [hs]
    exact List.infix_append' _ _ _
  cases count with
  | zero => rfl
  | succ count => rw [runScripts, hfind]

/-- **Scripts in braces.**  Where no script holds a closing brace and neither the outputs
nor the texts between them open an envelope, the scripts are run once each, in their
order, and each gives way to its output; at most `scriptLimit` of them, and the braces
behind these stay as they are. -/
theorem runScripts_interpolated (e : Evaluator) (baseUrl : String) (query : Query)
    (last : List Char) (hscripts : ∀ piece ∈ pieces, '\x7d' ∉ piece.script)
    (hopen : ∀ opening ∈ Envelope.openings,
      ¬opening <:+: (expanded e baseUrl query [] pieces).value ++ last) :
    runScripts e baseUrl query scriptLimit (interpolated pieces last) =
        (expanded e baseUrl query [] (pieces.take scriptLimit) >>= fun text =>
          pure (text ++ interpolated (pieces.drop scriptLimit) last)) ∧
      (e.IsSilent →
        (runScripts e baseUrl query scriptLimit (interpolated pieces last)).evaluations =
          (pieces.take scriptLimit).map fun piece => trimmed (String.ofList piece.script)) := by
  have hfront : ∀ opening ∈ Envelope.openings,
      ¬opening <:+: (expanded e baseUrl query [] pieces).value :=
    fun opening hopening hinside =>
      hopen opening hopening (hinside.trans (List.prefix_append _ last).isInfix)
  have hrun : runScripts e baseUrl query scriptLimit (interpolated pieces last) =
      (expanded e baseUrl query [] (pieces.take scriptLimit) >>= fun text =>
        pure (text ++ interpolated (pieces.drop scriptLimit) last)) := by
    rw [← List.nil_append (interpolated pieces last),
      runScripts_append_interpolated scriptLimit hscripts hfront]
    refine Traced.bind_congr ?_
    rcases Nat.le_total pieces.length scriptLimit with hfew | hmany
    · -- passes are left, and find nothing
      rw [List.take_of_length_le hfew, List.drop_of_length_le hfew]
      exact runScripts_of_lacks _ hopen
    · rw [Nat.sub_eq_zero_of_le hmany]
      rfl
  refine ⟨hrun, fun hsilent => ?_⟩
  simp [hrun, evaluations_expanded hsilent, Traced.evaluations_pure]

/-- An evaluator that gives every script back. -/
def verbatim : Evaluator := fun script _ => pure (.ok (.text script))

theorem isSilent_verbatim : verbatim.IsSilent := by
  intro script bindings event hevent
  simp [verbatim] at hevent

/-- Two scripts in braces, the second between further braces. -/
def twoScripts : List Interpolation :=
  [⟨"/a/".toList, " 1 ".toList⟩, ⟨"-\x7b".toList, "key".toList⟩]

/-- Each output stands where its script stood. -/
theorem runScripts_interpolated_twoScripts :
    (∀ piece ∈ twoScripts, '\x7d' ∉ piece.script) ∧
    (∀ opening ∈ Envelope.openings, ¬opening <:+:
      (expanded verbatim "https://s.com" {} [] twoScripts).value ++ "\x7d/c".toList) ∧
    interpolated twoScripts "\x7d/c".toList =
      "/a/\x7b\x7bjs: 1 \x7d\x7d-\x7b\x7b\x7bjs:key\x7d\x7d\x7d/c".toList ∧
    (runScripts verbatim "https://s.com" {} scriptLimit
      (interpolated twoScripts "\x7d/c".toList)).value = "/a/1-\x7bkey\x7d/c".toList ∧
    (runScripts verbatim "https://s.com" {} scriptLimit
      (interpolated twoScripts "\x7d/c".toList)).evaluations = ["1", "key"] := by
  have hscripts : ∀ piece ∈ twoScripts, '\x7d' ∉ piece.script := by decide
  have hopen : ∀ opening ∈ Envelope.openings, ¬opening <:+:
      (expanded verbatim "https://s.com" {} [] twoScripts).value ++ "\x7d/c".toList := by
    decide +kernel
  obtain ⟨hrun, hevaluations⟩ :=
    runScripts_interpolated verbatim "https://s.com" {} "\x7d/c".toList hscripts hopen
  refine ⟨hscripts, hopen, by decide +kernel, ?_, ?_⟩
  · rw [hrun]
    decide +kernel
  · rw [hevaluations isSilent_verbatim]
    decide +kernel

/-- Nine scripts in braces, one behind the other. -/
def nineScripts : List Interpolation := List.replicate 9 ⟨[], "1".toList⟩

/-- The ninth script is not run. -/
theorem runScripts_interpolated_ne_nineScripts :
    (∀ piece ∈ nineScripts, '\x7d' ∉ piece.script) ∧
    (∀ opening ∈ Envelope.openings, ¬opening <:+:
      (expanded verbatim "https://s.com" {} [] nineScripts).value ++ []) ∧
    runScripts verbatim "https://s.com" {} scriptLimit (interpolated nineScripts []) ≠
      (expanded verbatim "https://s.com" {} [] nineScripts >>= fun text => pure (text ++ [])) := by
  refine ⟨by decide +kernel, by decide +kernel, fun hexpanded => ?_⟩
  have hvalue := congrArg Traced.value hexpanded
  revert hvalue
  decide +kernel

end Folio.Request
