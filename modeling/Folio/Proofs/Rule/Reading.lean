import Folio.Proofs.Rule.Expr
import Folio.Proofs.Script.Opening

/-!
# Folio.Proofs.Rule.Reading

How a rule is read around its scripts.  The envelope that is taken first is the
leftmost one, so that the rule that feeds its script has no script of its own:
it is read as alternatives, at every depth of the rule (`hasPlainHeads_readChars`).
The parts that are read next are shorter than the rule (`readsShorter`), on
which the recursion of `readChars` rests.

In braces the label of a script is dropped with the blanks in front of it, so
that the envelope is not put together again from its marks, the label and the
script alone (`not_rejoined_spacedLabel`).
-/

namespace Folio.Rule

open Folio.Text Folio.Script

/-! ## The rule that feeds a script -/

/-- No rule that feeds a script, at whatever depth, has a script. -/
inductive Expr.HasPlainHeads : Expr → Prop
  | alternatives {list : List Alternative} : HasPlainHeads (.alternatives list)
  | scripted (head : Option (List Alternative)) {script : String} {tail : Option Expr}
      (onward : ∀ rule, tail = some rule → HasPlainHeads rule) :
      HasPlainHeads (.scripted (head.map .alternatives) script tail)

/-- What stands before the first envelope is read as alternatives. -/
theorem readChars_headText {s : List Char} {e : Envelope} (h : Envelope.find? true s = some e) :
    readChars (headText e.before) = .alternatives (readAlternatives (headText e.before)) := by
  have hnone : Envelope.find? true (trim (headText e.before)) = none :=
    Envelope.find?_eq_none_of_isInfix (Envelope.find?_before_eq_none h)
      ((trim_isInfix _).trans (headText_isInfix e.before))
  rw [readChars_of_none hnone, headText, trim_trim]

theorem hasPlainHeads_readChars (rule : List Char) : (readChars rule).HasPlainHeads := by
  induction rule using readChars.induct with
  | case1 rule text hfind =>
      rw [readChars_of_none hfind]
      exact .alternatives
  | case2 rule text e hfind head tail ihHead ihTail =>
      rw [readChars_of_some hfind, readChars_headText hfind]
      have honward : ∀ part, (if tailText e.after = [] then none
          else some (readChars (tailText e.after))) = some part → part.HasPlainHeads := by
        intro part hpart
        obtain ⟨-, hsome⟩ := Option.ite_none_left_eq_some.mp hpart
        rw [← Option.some.inj hsome]
        exact ihTail
      split
      · exact .scripted none honward
      · exact .scripted (some _) honward

/-! ## The parts that are read -/

/-- A rule is read as alternatives, or as a script between the readings of parts that are
shorter than the rule. -/
inductive ReadsShorter (rule : List Char) : Prop
  | alternatives (h : readChars rule = .alternatives (readAlternatives (trim rule)))
  | scripted {head tail : Option (List Char)} {script : String}
      (h : readChars rule = .scripted (head.map readChars) script (tail.map readChars))
      (shorterHead : ∀ part ∈ head, part.length < rule.length)
      (shorterTail : ∀ part ∈ tail, part.length < rule.length)

/-- A part that is read unless it is empty. -/
theorem exists_map_eq_ite (f : List Char → Expr) (part : List Char) :
    ∃ read : Option (List Char),
      (if part = [] then none else some (f part)) = read.map f ∧ ∀ x ∈ read, x = part := by
  by_cases hempty : part = []
  · exact ⟨none, if_pos hempty, by simp⟩
  · exact ⟨some part, if_neg hempty, by simp⟩

theorem readsShorter (rule : List Char) : ReadsShorter rule := by
  cases hfind : Envelope.find? true (trim rule) with
  | none => exact .alternatives (readChars_of_none hfind)
  | some e =>
      have htext := length_trim_le rule
      obtain ⟨hbefore, hafter⟩ := Envelope.find?_shorter hfind
      have hhead := length_headText_le e.before
      have htail := length_tailText_le e.after
      have hread := readChars_of_some hfind
      obtain ⟨head, hmapHead, heqHead⟩ := exists_map_eq_ite readChars (headText e.before)
      obtain ⟨tail, hmapTail, heqTail⟩ := exists_map_eq_ite readChars (tailText e.after)
      rw [hmapHead, hmapTail] at hread
      refine .scripted hread (fun part hpart => ?_) (fun part hpart => ?_)
      · rw [heqHead part hpart]
        omega
      · rw [heqTail part hpart]
        omega

/-- **Scripts in rules.**  A text has an envelope exactly when one may begin in it, at a mark of
a tag or of an inline script or at braces that are closed further on, and then the
leftmost is found.  No rule that feeds a script has one itself, and every part that
is read next is shorter than the rule. -/
theorem reads_leftmost (bare : Bool) (s : List Char) :
    ((Envelope.find? bare s).isSome ↔ ∃ front, Envelope.OpensAt bare s front) ∧
      (∀ e, Envelope.find? bare s = some e → Envelope.IsLeftmost bare s e) ∧
      (readChars s).HasPlainHeads ∧ ReadsShorter s :=
  ⟨Envelope.isSome_find?_iff_exists_opensAt, fun _ => Envelope.isLeftmost_of_find?,
    hasPlainHeads_readChars s, readsShorter s⟩

/-- Braces that are never closed, in front of a tag with the mark of an inline script in it. -/
def openBraces : String := "\x7b\x7bp@<js>@js:1</js>@q@<js>2"

theorem reads_leftmost_openBraces :
    ∃ e, Envelope.find? true openBraces.toList = some e ∧ e.kind = .tag ∧
      e.script = "@js:1".toList ∧ Envelope.IsLeftmost true openBraces.toList e := by
  have hfind : Envelope.find? true openBraces.toList =
      some ⟨.tag, "\x7b\x7bp@".toList, "@js:1".toList, "@q@<js>2".toList⟩ := by decide
  exact ⟨_, hfind, rfl, rfl, (reads_leftmost true openBraces.toList).2.1 _ hfind⟩

/-- A blank in front of the label. -/
def spacedLabel : String := "\x7b\x7b js:1\x7d\x7d"

/-- The blank is in no part of the envelope. -/
theorem not_rejoined_spacedLabel :
    Envelope.find? true spacedLabel.toList = some ⟨.braces, [], ['1'], []⟩ ∧
      ∀ opening ∈ [Envelope.tagOpening, Envelope.inlineOpening, Envelope.bareOpening],
        ∀ label ∈ [[], Envelope.scriptLabel],
          ∀ closing ∈ [[], Envelope.tagClosing, Envelope.bracesClosing],
            opening ++ (label ++ (['1'] ++ (closing ++ []))) ≠ spacedLabel.toList := by
  decide

end Folio.Rule
