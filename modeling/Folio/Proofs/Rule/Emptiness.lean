import Folio.Proofs.Rule.Fallback
import Folio.Proofs.Text.Replace

/-!
# Folio.Proofs.Rule.Emptiness

Empty results.  No text that a rule extracts is empty, so that a rule extracts the
empty text exactly when it extracts nothing (`text_eq_empty_iff`): whatever a cascade,
a path, an affix or a script gives, the empty texts are left out behind it.

Blank subjects are left out behind paths and scripts, and elements are never blank.  But
an alternative without steps hands its subject on, rewritten by its affix, and that is
not looked at: there, and nowhere else, a rule selects a blank subject
(`exists_isEmpty_elements_iff`).
-/

namespace Folio.Rule

open Folio.Text Folio.Markup Folio.Script

theorem exists_of_bind_eq_ok {ε α β : Type} {x : Except ε α} {f : α → Except ε β} {b : β}
    (h : x >>= f = .ok b) : ∃ a, x = .ok a ∧ f a = .ok b := by
  cases x with
  | error failure => cases h
  | ok a => exact ⟨a, rfl, h⟩

/-! ## Texts -/

section Texts

variable {e : Evaluator} {base : String} {r : Render} {s : Subject}

/-- The empty texts are left out behind the affix. -/
theorem Alternative.ne_empty_of_mem_texts {a : Alternative} {values : List String}
    (h : a.texts s base r = .ok values) : ∀ value ∈ values, value ≠ "" := by
  have hfiltered {found : Except Failure (List String)}
      (h : (do let texts ← found; let texts ← a.rewrite texts; pure (texts.filter (· != ""))) =
        Except.ok values) : ∀ value ∈ values, value ≠ "" := by
    obtain ⟨texts, -, h⟩ := exists_of_bind_eq_ok h
    obtain ⟨rewritten, -, h⟩ := exists_of_bind_eq_ok h
    cases h
    exact fun value hvalue => bne_iff_ne.mp (List.mem_filter.mp hvalue).2
  rw [Alternative.texts] at h
  split at h
  · exact hfiltered h
  · exact hfiltered h
  · exact hfiltered h

/-- A script gives texts, which the rule behind it works on one after the other. -/
theorem Expr.exists_value_texts_scripted (e : Evaluator) (base : String) (r : Render)
    (head : Option Expr) (script : String) (s : Subject) :
    ∃ output : List String,
      ((Expr.scripted head script none).texts e base r s).value = output.filter (· != "") ∧
      ∀ tail : Expr, ((Expr.scripted head script (some tail)).texts e base r s).value =
        output.flatMap fun text => (tail.texts e base r (.text text)).value := by
  cases head with
  | none =>
      refine ⟨_, rfl, fun tail => ?_⟩
      rw [Expr.texts]
      simp only [Traced.value_bind, Traced.value_flatEach]
  | some head =>
      refine ⟨_, rfl, fun tail => ?_⟩
      rw [Expr.texts]
      simp only [Traced.value_bind, Traced.value_flatEach]

/-- Whatever scripts return, the texts that a rule extracts are not empty. -/
theorem Expr.ne_empty_of_mem_texts (e : Evaluator) (base : String) (r : Render) (rule : Expr)
    (s : Subject) : ∀ value ∈ (rule.texts e base r s).value, value ≠ "" := by
  induction rule using Expr.induction generalizing s with
  | alternatives list =>
      intro value hvalue
      rw [Expr.texts] at hvalue
      obtain ⟨-, a, -, values, -, -, hvalues, hmem⟩ := mem_value_firstResults_iff.mp hvalue
      exact Alternative.ne_empty_of_mem_texts hvalues value hmem
  | scripted head script tail _ ihTail =>
      obtain ⟨output, hnone, hsome⟩ := Expr.exists_value_texts_scripted e base r head script s
      intro value hvalue
      cases tail with
      | none =>
          rw [hnone] at hvalue
          simpa using (List.mem_filter.mp hvalue).2
      | some tail =>
          rw [hsome] at hvalue
          obtain ⟨text, -, hvalue⟩ := List.mem_flatMap.mp hvalue
          exact ihTail tail rfl (.text text) value hvalue

end Texts

/-- **Texts.**  No text that a rule extracts is empty, and the rule extracts the empty text
exactly when it extracts no texts; so it is with the markup that it extracts. -/
theorem text_eq_empty_iff (e : Evaluator) (base : String) (s : Subject) (rule : String) :
    "" ∉ (texts e base s rule).value ∧
      ((text e base s rule).value = "" ↔ (texts e base s rule).value = []) ∧
      "" ∉ ((Expr.read rule).texts e base .markup s).value ∧
      ((markup e base s rule).value = "" ↔
        ((Expr.read rule).texts e base .markup s).value = []) := by
  have hvalues (r : Render) := Expr.ne_empty_of_mem_texts e base r (Expr.read rule) s
  exact ⟨fun h => hvalues .text "" h rfl, intercalate_eq_empty_iff (hvalues .text),
    fun h => hvalues .markup "" h rfl, intercalate_eq_empty_iff (hvalues .markup)⟩

/-! ## Elements -/

section Elements

variable {root p : Place} {places : List Place}

theorem mem_of_mem_applyIndex {α : Type} {index : Option Index} {items : List α} {x : α}
    (h : x ∈ applyIndex index items) : x ∈ items := by
  rw [applyIndex.eq_def] at h
  split at h
  · exact h
  · obtain ⟨i, -, hget⟩ := Option.bind_eq_some_iff.mp (Option.mem_toList.mp h)
    exact List.mem_of_getElem? hget
  · split at h
    · exact List.mem_of_mem_eraseIdx h
    · exact h

theorem isElement_of_mem_inside {selection : Selection} (h : p ∈ selection.inside root) :
    p.isElement = true := by
  have hbelow (h : p ∈ root.elementsBelow) : p.isElement = true := (List.mem_filter.mp h).2
  rw [Selection.inside.eq_def] at h
  split at h
  · exact (List.mem_filter.mp h).2
  · exact hbelow (List.mem_filter.mp h).1
  · exact hbelow (List.mem_filter.mp h).1

/-- Steps lead from elements to elements. -/
theorem isElement_of_mem_runCascade {steps : List (List Char)} {current : List Place}
    (hcurrent : ∀ p ∈ current, p.isElement = true) (h : runCascade current steps = .ok places) :
    ∀ p ∈ places, p.isElement = true := by
  induction steps generalizing current with
  | nil =>
      cases h
      exact hcurrent
  | cons raw rest ih =>
      rw [runCascade] at h
      split at h
      · cases h
      · next step _ =>
        simp only at h
        split at h
        · cases h
          exact fun _ hmem => nomatch hmem
        · refine ih (fun p hp => ?_) h
          obtain ⟨root, -, hp⟩ := List.mem_flatMap.mp hp
          exact isElement_of_mem_inside (mem_of_mem_applyIndex hp)

theorem isElement_of_root? {s : Subject} (h : s.root? = some root) : root.isElement = true := by
  obtain ⟨outermost, houtermost, h⟩ := Option.bind_eq_some_iff.mp h
  have helement : outermost.isElement = true :=
    (List.mem_filter.mp (List.mem_of_head? houtermost)).2
  split at h
  · cases h
    exact helement
  · split at h
    · cases h
      exact helement
    · exact (List.mem_filter.mp (List.mem_of_find?_eq_some h)).2

theorem exists_toList_opening (tag : Tag) : ∃ rest, tag.opening.toList = '<' :: rest := by
  rw [Tag.opening, String.toList_append, String.toList_append, String.toList_append]
  exact ⟨_, rfl⟩

/-- The written form of an element begins with its tag. -/
theorem isBlankText_outer (h : p.isElement = true) : isBlankText p.outer = false := by
  obtain ⟨node, trail⟩ := p
  cases node with
  | element tag children =>
      obtain ⟨rest, hrest⟩ := exists_toList_opening tag
      have houter : ∃ more, (Place.outer ⟨.element tag children, trail⟩).toList = '<' :: more := by
        rw [Place.outer, Node.outer, Node.write]
        split
        · exact ⟨rest, hrest⟩
        · rw [String.toList_append, String.toList_append, String.toList_append,
            String.toList_append, hrest]
          exact ⟨_, rfl⟩
      obtain ⟨more, hmore⟩ := houter
      rw [isBlankText, hmore]
      rfl
  | _ => cases h

theorem isEmpty_of_mem_cascadeSubjects {s t : Subject} {steps : List (List Char)}
    {subjects : List Subject} (hsteps : steps ≠ []) (h : cascadeSubjects s steps = .ok subjects)
    (ht : t ∈ subjects) : t.isEmpty = false := by
  rw [cascadeSubjects, if_neg (by simpa using hsteps)] at h
  cases hroot : s.root? with
  | none =>
      rw [hroot] at h
      cases h
      cases ht
  | some root =>
      rw [hroot] at h
      obtain ⟨places, hplaces, h⟩ := exists_of_bind_eq_ok h
      cases h
      obtain ⟨p, hp, rfl⟩ := List.mem_map.mp ht
      exact isBlankText_outer (isElement_of_mem_runCascade
        (List.forall_mem_singleton.mpr (isElement_of_root? hroot)) hplaces p hp)

end Elements

/-! ## Subjects -/

variable {e : Evaluator} {base : String} {s t : Subject} {a : Alternative}

/-- The alternative hands the subject on: it has no steps, and all that it does is to
rewrite the text of the subject by its affix. -/
structure Alternative.HandsOn (a : Alternative) (s t : Subject) : Prop where
  rewrites : a.rewriteSubject s = .ok t
  structural : a.dialectFor t = .structural
  steps : a.steps = []

theorem Alternative.HandsOn.elements_eq (h : a.HandsOn s t) : a.elements s = .ok [t] := by
  rw [Alternative.elements, h.rewrites]
  simp only [bind, Except.bind, h.structural, cascadeSubjects, h.steps]
  rfl

/-- Blank subjects are left out behind a path. -/
theorem isEmpty_of_mem_pathSubjects {expression : String} {subjects : List Subject}
    (h : pathSubjects s expression = .ok subjects) (ht : t ∈ subjects) : t.isEmpty = false := by
  rw [pathSubjects] at h
  cases hroot : s.root? with
  | none =>
      rw [hroot] at h
      cases h
      cases ht
  | some root =>
      rw [hroot] at h
      obtain ⟨results, -, h⟩ := exists_of_bind_eq_ok h
      cases h
      simpa using (List.mem_filter.mp ht).2

theorem isEmpty_of_mem_jsonSubjects {path : String} {subjects : List Subject}
    (h : jsonSubjects s path = .ok subjects) (ht : t ∈ subjects) : t.isEmpty = false := by
  obtain ⟨document, -, h⟩ := exists_of_bind_eq_ok h
  obtain ⟨values, -, h⟩ := exists_of_bind_eq_ok h
  cases h
  simpa using (List.mem_filter.mp ht).2

/-- A blank subject is one that is handed on. -/
theorem Alternative.handsOn_of_mem_elements {subjects : List Subject}
    (h : a.elements s = .ok subjects) (ht : t ∈ subjects) (hblank : t.isEmpty = true) :
    a.HandsOn s t := by
  obtain ⟨rewritten, hrewritten, h⟩ := exists_of_bind_eq_ok h
  split at h
  · next hdialect =>
    by_cases hsteps : a.steps = []
    · rw [cascadeSubjects, hsteps] at h
      cases h
      rw [List.mem_singleton.mp ht]
      exact ⟨hrewritten, hdialect, hsteps⟩
    · rw [isEmpty_of_mem_cascadeSubjects hsteps h ht] at hblank
      contradiction
  · rw [isEmpty_of_mem_pathSubjects h ht] at hblank
    contradiction
  · rw [isEmpty_of_mem_jsonSubjects h ht] at hblank
    contradiction

/-- The rule selects a blank subject. -/
inductive Expr.YieldsBlank (e : Evaluator) (base : String) : Expr → Subject → Prop
  /-- The alternatives in front select nothing, and this one hands on nothing but blanks. -/
  | handedOn {before after : List Alternative} {a : Alternative} {s t : Subject}
      (hbefore : (firstResults (Alternative.elements s) before).value = [])
      (ha : a.HandsOn s t) (hblank : t.isEmpty = true) :
      YieldsBlank e base (.alternatives (before ++ a :: after)) s
  /-- The rule behind a script selects one in a text that the script returned. -/
  | behind {head : Option Expr} {script : String} {tail : Expr} {s t : Subject}
      (ht : t ∈ ((Expr.scripted head script none).elements e base s).value)
      (h : YieldsBlank e base tail t) : YieldsBlank e base (.scripted head script (some tail)) s

/-- A script gives subjects that are not blank, which the rule behind it works on one after
the other. -/
theorem Expr.exists_value_elements_scripted (e : Evaluator) (base : String) (head : Option Expr)
    (script : String) (s : Subject) :
    (∀ t ∈ ((Expr.scripted head script none).elements e base s).value, t.isEmpty = false) ∧
      ∀ tail : Expr, ((Expr.scripted head script (some tail)).elements e base s).value =
        ((Expr.scripted head script none).elements e base s).value.flatMap fun t =>
          (tail.elements e base t).value := by
  have hsubjects (output : List String) : ∀ t ∈ (output.filter fun text => !isBlankText text).map
      Subject.text, t.isEmpty = false := by
    refine List.forall_mem_map.mpr fun text htext => ?_
    have hblank : isBlankText text = false := by simpa using (List.mem_filter.mp htext).2
    exact hblank
  cases head with
  | none =>
      refine ⟨?_, fun tail => ?_⟩
      · rw [Expr.elements]
        exact hsubjects _
      · rw [Expr.elements, Expr.elements]
        simp only [Traced.value_bind, Traced.value_flatEach]
        rfl
  | some head =>
      refine ⟨?_, fun tail => ?_⟩
      · rw [Expr.elements]
        exact hsubjects _
      · rw [Expr.elements, Expr.elements]
        simp only [Traced.value_bind, Traced.value_flatEach]
        rfl

theorem Expr.exists_isEmpty_iff (e : Evaluator) (base : String) (rule : Expr) (s : Subject) :
    (∃ t ∈ (rule.elements e base s).value, t.isEmpty = true) ↔ rule.YieldsBlank e base s := by
  induction rule using Expr.induction generalizing s with
  | alternatives list =>
      rw [Expr.elements]
      constructor
      · rintro ⟨t, ht, hblank⟩
        obtain ⟨before, a, after, subjects, rfl, hbefore, ha, ht⟩ :=
          mem_value_firstResults_iff.mp ht
        exact .handedOn hbefore (Alternative.handsOn_of_mem_elements ha ht hblank) hblank
      · rintro ⟨hbefore, ha, hblank⟩
        exact ⟨_, mem_value_firstResults_iff.mpr ⟨_, _, _, _, rfl, hbefore, ha.elements_eq,
          List.mem_singleton_self _⟩, hblank⟩
  | scripted head script tail _ ihTail =>
      obtain ⟨hnone, hsome⟩ := Expr.exists_value_elements_scripted e base head script s
      cases tail with
      | none =>
          constructor
          · rintro ⟨t, ht, hblank⟩
            rw [hnone t ht] at hblank
            contradiction
          · intro h
            cases h
      | some tail =>
          rw [hsome]
          constructor
          · rintro ⟨t, ht, hblank⟩
            obtain ⟨subject, hsubject, ht⟩ := List.mem_flatMap.mp ht
            exact .behind hsubject ((ihTail tail rfl subject).mp ⟨t, ht, hblank⟩)
          · rintro (_ | ⟨hsubject, h⟩)
            obtain ⟨t, ht, hblank⟩ := (ihTail tail rfl _).mpr h
            exact ⟨t, List.mem_flatMap.mpr ⟨_, hsubject, ht⟩, hblank⟩

/-- The alternatives whose results a rule gives: those behind its last script. -/
def Expr.lastAlternatives : Expr → List Alternative
  | .alternatives list => list
  | .scripted _ _ none => []
  | .scripted _ _ (some tail) => tail.lastAlternatives

/-- A blank subject comes from an affix that leaves nothing else of a subject. -/
theorem Expr.YieldsBlank.exists_affix {rule : Expr} (h : rule.YieldsBlank e base s)
    (hs : s.isEmpty = false) : ∃ a ∈ rule.lastAlternatives, a.steps = [] ∧ a.affix ≠ none := by
  induction h with
  | @handedOn before after a s t _ ha hblank =>
      refine ⟨a, List.mem_append_right before List.mem_cons_self, ha.steps, fun hnone => ?_⟩
      have hrewrites := ha.rewrites
      rw [Alternative.rewriteSubject, hnone] at hrewrites
      cases hrewrites
      rw [hs] at hblank
      contradiction
  | @behind head script tail s t ht _ ih =>
      exact ih ((Expr.exists_value_elements_scripted e base head script s).1 t ht)

/-- A rule of which every alternative without steps has no affix selects no blank subject in
one that is not blank. -/
theorem isEmpty_of_mem_elements {rule : String} (hs : s.isEmpty = false)
    (hrule : ∀ a ∈ (Expr.read rule).lastAlternatives, a.steps = [] → a.affix = none)
    (ht : t ∈ (elements e base s rule).value) : t.isEmpty = false := by
  rw [elements] at ht
  split at ht
  · cases ht
  · rw [← Bool.not_eq_true]
    intro hblank
    obtain ⟨a, ha, hsteps, haffix⟩ :=
      ((Expr.exists_isEmpty_iff e base (Expr.read rule) s).mp ⟨t, ht, hblank⟩).exists_affix hs
    exact haffix (hrule a ha hsteps)

/-- **Blank subjects.**  A rule selects one exactly where the alternative that it comes down
to, behind its scripts, is a cascade without steps, so that it hands its subject on, and
the affix leaves nothing but blanks of that. -/
theorem exists_isEmpty_elements_iff (e : Evaluator) (base : String) (s : Subject)
    (rule : String) : (∃ t ∈ (elements e base s rule).value, t.isEmpty = true) ↔
      isBlankText rule = false ∧ (Expr.read rule).YieldsBlank e base s := by
  rw [elements]
  cases isBlankText rule with
  | true => simp
  | false => simpa using Expr.exists_isEmpty_iff e base (Expr.read rule) s

/-- An affix erases the text, and that is what the rule selects: the alternative behind it,
which selects the text as it is, does not come to it. -/
theorem not_forall_isEmpty_elements :
    (elements (fun _ _ => pure (.ok .empty)) "" (.text "x") "##x||##y").value = [.text ""] ∧
      (elements (fun _ _ => pure (.ok .empty)) "" (.text "x") "##y").value = [.text "x"] ∧
      ¬∀ (e : Evaluator) (base : String) (s : Subject) (rule : String),
        ∀ t ∈ (elements e base s rule).value, t.isEmpty = false := by
  have herased : (elements (fun _ _ => pure (.ok .empty)) "" (.text "x") "##x||##y").value =
      [.text ""] := by
    decide +kernel
  refine ⟨herased, by decide +kernel, fun h => ?_⟩
  have hblank := h (fun _ _ => pure (.ok .empty)) "" (.text "x") "##x||##y" (.text "")
    (by rw [herased]; exact List.mem_singleton_self _)
  contradiction

end Folio.Rule
