import Folio.Proofs.Rule.Split
import Folio.Proofs.Script.Envelope
import Folio.Proofs.Script.Evaluation
import Folio.Rule.Expr

/-!
# Folio.Proofs.Rule.Expr

The scripts of a rule.  Reading a rule takes every script out of its text
(`toList_isInfix_of_holds`), and the default leaf marks no script that the rule
did not have: what it puts into a rule touches no mark of an envelope
(`withDefaultLeaf_eq_of_isSome`).
-/

namespace Folio.Rule

open Folio.Text Folio.Script

/-! ## Scripts -/

/-- The script is that of a rule, or of the rule that feeds it or works on its
result. -/
inductive Expr.Holds (script : String) : Expr → Prop
  | here {head tail : Option Expr} : Holds script (.scripted head script tail)
  | inHead {head : Expr} {own : String} {tail : Option Expr} (h : Holds script head) :
      Holds script (.scripted (some head) own tail)
  | inTail {head : Option Expr} {own : String} {tail : Expr} (h : Holds script tail) :
      Holds script (.scripted head own (some tail))

/-- What is run of a rule: one of its scripts without the blanks around it. -/
def Expr.Runs (rule : Expr) (script : String) : Prop :=
  ∃ own, rule.Holds own ∧ script = trimmed own

/-- Rules are built from alternatives by putting a script between two of them. -/
theorem Expr.induction {motive : Expr → Prop}
    (alternatives : ∀ list, motive (.alternatives list))
    (scripted : ∀ head script tail, (∀ x, head = some x → motive x) →
      (∀ x, tail = some x → motive x) → motive (.scripted head script tail)) :
    ∀ rule, motive rule
  | .alternatives list => alternatives list
  | .scripted head script tail =>
      scripted head script tail
        (fun x hx => by
          subst hx
          exact Expr.induction alternatives scripted x)
        (fun x hx => by
          subst hx
          exact Expr.induction alternatives scripted x)

/-! ## Reading -/

theorem headText_isInfix (s : List Char) : headText s <:+: s :=
  ((trim_isInfix _).trans (dropEndWhile_isPrefix _ _).isInfix).trans (trim_isInfix s)

theorem tailText_isInfix (s : List Char) : tailText s <:+: s :=
  ((trim_isInfix _).trans (List.dropWhile_suffix _).isInfix).trans (trim_isInfix s)

/-- A rule without an envelope is read as its alternatives. -/
theorem readChars_of_none {rule : List Char} (h : Envelope.find? true (trim rule) = none) :
    readChars rule = .alternatives (readAlternatives (trim rule)) := by
  rw [readChars]
  split
  · rfl
  · next e he =>
    rw [h] at he
    contradiction

/-- A rule with an envelope is read around it. -/
theorem readChars_of_some {rule : List Char} {e : Envelope}
    (h : Envelope.find? true (trim rule) = some e) :
    readChars rule = .scripted
      (if headText e.before = [] then none else some (readChars (headText e.before)))
      (String.ofList e.script)
      (if tailText e.after = [] then none else some (readChars (tailText e.after))) := by
  rw [readChars]
  split
  · next he =>
    rw [h] at he
    contradiction
  · next f hf =>
    rw [h] at hf
    rw [Option.some.inj hf]

/-- The blanks around a rule make no difference. -/
theorem readChars_congr {rule other : List Char} (h : trim rule = trim other) :
    readChars rule = readChars other := by
  cases hfind : Envelope.find? true (trim rule) with
  | none =>
      have hother : Envelope.find? true (trim other) = none := by rw [← h, hfind]
      rw [readChars_of_none hfind, readChars_of_none hother, h]
  | some e =>
      have hother : Envelope.find? true (trim other) = some e := by rw [← h, hfind]
      rw [readChars_of_some hfind, readChars_of_some hother]

/-- **Scripts are pieces of their rule.** -/
theorem toList_isInfix_of_holds {rule : List Char} {script : String}
    (h : (readChars rule).Holds script) : script.toList <:+: rule := by
  induction rule using readChars.induct with
  | case1 rule text hfind =>
      rw [readChars_of_none hfind] at h
      contradiction
  | case2 rule text e hfind head tail ihHead ihTail =>
      rw [readChars_of_some hfind] at h
      have htext : text <:+: rule := trim_isInfix rule
      generalize hhead : (if headText e.before = [] then none
        else some (readChars (headText e.before))) = headExpr at h
      generalize htail : (if tailText e.after = [] then none
        else some (readChars (tailText e.after))) = tailExpr at h
      cases h with
      | here =>
          rw [String.toList_ofList]
          exact (Envelope.script_isInfix hfind).trans htext
      | inHead h =>
          obtain ⟨-, hsome⟩ := Option.ite_none_left_eq_some.mp hhead
          rw [← Option.some.inj hsome] at h
          have hbefore := (Envelope.before_isPrefix hfind).isInfix.trans htext
          exact (ihHead h).trans ((headText_isInfix e.before).trans hbefore)
      | inTail h =>
          obtain ⟨-, hsome⟩ := Option.ite_none_left_eq_some.mp htail
          rw [← Option.some.inj hsome] at h
          have hafter := (Envelope.after_isSuffix hfind).isInfix.trans htext
          exact (ihTail h).trans ((tailText_isInfix e.after).trans hafter)

/-- The scripts of a rule stand in its text. -/
theorem isPartOf_of_runs {rule script : String} (h : (Expr.read rule).Runs script) :
    IsPartOf rule script := by
  obtain ⟨own, hown, rfl⟩ := h
  have hpart := isPartOf_trimmed (toList_isInfix_of_holds hown)
  rwa [String.ofList_toList] at hpart

/-! ## The default leaf -/

/-- What joins the parts of a rule that has been given the default leaf. -/
def joints : List (List Char) := [alternativeMark, "@html".toList]

/-- A text is made of pieces of another in their order, with joints between
them. -/
inductive Patched : List Char → List Char → Prop
  | piece {new old : List Char} (h : new <:+: old) : Patched new old
  | joined {new new' old old' joint between whole : List Char} (first : Patched new old)
      (hjoint : joint ∈ joints) (second : Patched new' old')
      (h : old ++ (between ++ old') <:+: whole) : Patched (new ++ (joint ++ new')) whole

/-- The mark cannot reach into a joint. -/
def IsApart (mark : List Char) : Prop :=
  (∀ c ∈ "|html".toList, c ∉ mark) ∧ mark ≠ [] ∧ mark.getLast? ≠ some '@'

/-- The marks of envelopes are none of those that part alternatives. -/
theorem isApart_of_mem_markings {marks : List (List Char)} (h : marks ∈ Envelope.markings) :
    ∀ mark ∈ marks, IsApart mark := by
  intro mark hmark
  have hlacks : ∀ marks ∈ Envelope.markings, ∀ mark ∈ marks,
      ("|html".toList.all fun c => !mark.contains c) = true := by decide
  have hends : ∀ marks ∈ Envelope.markings, ∀ mark ∈ marks,
      mark ≠ [] ∧ mark.getLast? ≠ some '@' := by decide
  refine ⟨fun c hc hmem => ?_, hends marks h mark hmark⟩
  have hnot := List.all_eq_true.mp (hlacks marks h mark hmark) c hc
  rw [List.contains_iff_mem.mpr hmem] at hnot
  contradiction

/-- Marks stand on one side of a joint. -/
theorem spells_split_joint {marks : List (List Char)} (hmarks : ∀ mark ∈ marks, IsApart mark)
    {joint new new' : List Char} (hjoint : joint ∈ joints)
    (h : Spells marks (new ++ (joint ++ new'))) :
    ∃ first second, marks = first ++ second ∧ Spells first new ∧ Spells second new' := by
  have hlacks (c : Char) (hc : c ∈ "|html".toList) : ∀ mark ∈ marks, c ∉ mark :=
    fun mark hmark => (hmarks mark hmark).1 c hc
  simp only [joints, List.mem_cons, List.not_mem_nil, or_false] at hjoint
  rcases hjoint with rfl | rfl
  · obtain ⟨first, second, rfl, hfirst, hsecond⟩ := h.split (hlacks '|' (by decide))
    have hlacksBar : ∀ mark ∈ second, '|' ∉ mark :=
      fun mark hmark => hlacks '|' (by decide) mark (List.mem_append_right first hmark)
    exact ⟨first, second, rfl, hfirst, hsecond.tail hlacksBar⟩
  · have hsplit : new ++ ("@html".toList ++ new') =
        (new ++ ['@']) ++ 'h' :: ("tml".toList ++ new') := by simp
    rw [hsplit] at h
    obtain ⟨first, second, rfl, hfirst, hsecond⟩ := h.split (hlacks 'h' (by decide))
    have hlacksSecond (c : Char) (hc : c ∈ "|html".toList) : ∀ mark ∈ second, c ∉ mark :=
      fun mark hmark => hlacks c hc mark (List.mem_append_right first hmark)
    have hends : ∀ mark ∈ first, mark ≠ [] ∧ mark.getLast? ≠ some '@' :=
      fun mark hmark => (hmarks mark (List.mem_append_left second hmark)).2
    refine ⟨first, second, rfl, hfirst.dropLast hends, ?_⟩
    exact ((hsecond.tail (hlacksSecond 't' (by decide))).tail
      (hlacksSecond 'm' (by decide))).tail (hlacksSecond 'l' (by decide))

/-- A patched text has no marks that the other one did not have. -/
theorem Patched.spells {new old : List Char} (h : Patched new old) {marks : List (List Char)}
    (hmarks : ∀ mark ∈ marks, IsApart mark) (hspells : Spells marks new) : Spells marks old := by
  induction h generalizing marks with
  | piece h => exact hspells.of_isInfix h
  | @joined new new' old old' joint between whole _ hjoint _ hwhole ihFirst ihSecond =>
      obtain ⟨first, second, rfl, hfirst, hsecond⟩ := spells_split_joint hmarks hjoint hspells
      have holdFirst :=
        ihFirst (fun mark hmark => hmarks mark (List.mem_append_left _ hmark)) hfirst
      have holdSecond :=
        ihSecond (fun mark hmark => hmarks mark (List.mem_append_right _ hmark)) hsecond
      exact (holdFirst.append (holdSecond.append_left between)).of_isInfix hwhole

/-- A leaf is put between two pieces of an alternative. -/
theorem patched_appendStep (raw : List Char) : Patched (appendStep "html".toList raw) raw := by
  have hleaf (rest : List Char) : '@' :: ("html".toList ++ rest) = "@html".toList ++ rest := rfl
  rw [appendStep]
  split
  · next before after hcut =>
    have hpiece : trimEnd before <:+: before := (dropEndWhile_isPrefix isBlank before).isInfix
    have hraw := eq_append_of_cut? hcut
    have hdrop : before ++ ([] ++ (trim raw).drop before.length) = trim raw := by
      rw [List.nil_append, hraw, List.drop_left]
    rw [hleaf]
    exact .joined (.piece hpiece) (by simp [joints]) (.piece (List.infix_refl _))
      (hdrop ▸ trim_isInfix raw)
  · have hnone : trim raw ++ '@' :: "html".toList = trim raw ++ ("@html".toList ++ []) := by simp
    have hwhole : trim raw ++ ([] ++ []) <:+: raw := by simpa using trim_isInfix raw
    rw [hnone]
    exact .joined (.piece (List.infix_refl _)) (by simp [joints]) (.piece (List.infix_refl []))
      hwhole

/-- Alternatives that are patched make a rule that is patched. -/
theorem patched_intercalate {f : List Char → List Char} {parts : List (List Char)}
    (h : ∀ part ∈ parts, Patched (f part) part) :
    Patched (alternativeMark.intercalate (parts.map f)) (alternativeMark.intercalate parts) := by
  induction parts with
  | nil => exact .piece (List.infix_refl [])
  | cons part parts ih =>
      obtain ⟨hpart, hparts⟩ := List.forall_mem_cons.mp h
      cases parts with
      | nil => simpa using hpart
      | cons next parts =>
          rw [List.map_cons, List.map_cons, List.intercalate_cons_cons,
            List.intercalate_cons_cons, List.append_assoc, List.append_assoc]
          exact .joined hpart (by simp [joints]) (ih hparts) (List.infix_refl _)

/-- What is a patch of a piece is a patch of the whole. -/
theorem Patched.of_isInfix {new old whole : List Char} (h : Patched new old)
    (hold : old <:+: whole) : Patched new whole := by
  cases h with
  | piece h => exact .piece (h.trans hold)
  | joined first hjoint second h => exact .joined first hjoint second (h.trans hold)

/-- The default leaf patches an alternative. -/
theorem patched_part (raw : List Char) :
    Patched (if (Alternative.read raw).isSingleStep then appendStep "html".toList raw
      else trim raw) raw := by
  split
  · exact patched_appendStep raw
  · exact .piece (trim_isInfix raw)

/-- So it patches a rule without scripts. -/
theorem patched_withDefaultLeaf {rule : String}
    (h : ¬(Envelope.find? true rule.toList).isSome = true) :
    Patched (withDefaultLeaf rule "html").toList rule.toList := by
  have hparts := patched_intercalate fun part
    (_ : part ∈ splitTopLevel alternativeMark false (trim rule.toList)) => patched_part part
  rw [intercalate_splitTopLevel (by decide)] at hparts
  rw [withDefaultLeaf, if_neg h, String.toList_ofList]
  exact hparts.of_isInfix (trim_isInfix rule.toList)

/-- **The default leaf marks no script.**  A rule with the default leaf that holds
a script is the rule as it was. -/
theorem withDefaultLeaf_eq_of_isSome {rule : String}
    (h : (Envelope.find? true (withDefaultLeaf rule "html").toList).isSome = true) :
    withDefaultLeaf rule "html" = rule := by
  by_cases hsome : (Envelope.find? true rule.toList).isSome = true
  · rw [withDefaultLeaf, if_pos hsome]
  · obtain ⟨marks, hmarks, hspells⟩ := Envelope.isSome_find?_iff.mp h
    have hold := (patched_withDefaultLeaf hsome).spells (isApart_of_mem_markings hmarks) hspells
    exact absurd (Envelope.isSome_find?_iff.mpr ⟨marks, hmarks, hold⟩) hsome

/-- The scripts of a rule with the default leaf are pieces of the rule. -/
theorem isPartOf_of_runs_withDefaultLeaf {rule script : String}
    (h : (Expr.read (withDefaultLeaf rule "html")).Runs script) : IsPartOf rule script := by
  have hsome : (Envelope.find? true (withDefaultLeaf rule "html").toList).isSome = true := by
    rw [Envelope.isSome_find?_iff]
    cases hfind : Envelope.find? true (trim (withDefaultLeaf rule "html").toList) with
    | none =>
        obtain ⟨own, hown, -⟩ := h
        rw [Expr.read, readChars_of_none hfind] at hown
        contradiction
    | some e =>
        have htrimmed := Envelope.isSome_find?_iff.mp (Option.isSome_of_eq_some hfind)
        obtain ⟨marks, hmarks, hspells⟩ := htrimmed
        exact ⟨marks, hmarks, hspells.of_isInfix (trim_isInfix _)⟩
  rw [withDefaultLeaf_eq_of_isSome hsome] at h
  exact isPartOf_of_runs h

end Folio.Rule
