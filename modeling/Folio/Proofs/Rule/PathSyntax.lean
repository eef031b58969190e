import Folio.Proofs.Rule.Connective

/-!
# Folio.Proofs.Rule.PathSyntax

Location paths are read as they are written, with the names of elements in
small letters; so a path is read back exactly when no step takes elements by a
name that has a capital letter (`read_unionText`).  A union is cut at its bars, a path at its
slashes and a step at its brackets; none of these is found in a condition, and
so none in a string.
-/

namespace Folio.Rule

open Folio.Text Folio.Markup

/-! ## Names of elements -/

/-- What a step takes, with the name of elements in small letters. -/
def NodeTest.lowered : NodeTest → NodeTest
  | .name n => .name (toLowerAscii n)
  | test => test

/-- A step with the name of elements in small letters. -/
def PathStep.lowered (step : PathStep) : PathStep := { step with test := step.test.lowered }

/-- A path with the names of elements in small letters. -/
def LocationPath.lowered (path : LocationPath) : LocationPath :=
  { path with steps := path.steps.map PathStep.lowered }

/-- A step does not take elements by a name that has a capital letter. -/
def NodeTest.HasNoCapital : NodeTest → Prop
  | .name n => ∀ c ∈ n.toList, ¬('A' ≤ c ∧ c ≤ 'Z')
  | _ => True

/-- No step of a path takes elements by a name that has a capital letter. -/
def LocationPath.HasNoCapital (path : LocationPath) : Prop :=
  ∀ step ∈ path.steps, step.test.HasNoCapital

/-- A character is its own small letter unless it is a capital one. -/
theorem lowerAscii_eq_self_iff {c : Char} : lowerAscii c = c ↔ ¬('A' ≤ c ∧ c ≤ 'Z') := by
  have hall : ∀ n < 91, 65 ≤ n → Char.ofNat (n + 32) ≠ Char.ofNat n := by decide
  rw [lowerAscii]
  split
  · next hcapital =>
    have hbounds : 65 ≤ c.toNat ∧ c.toNat ≤ 90 := hcapital
    have hne := hall c.toNat (by omega) hbounds.1
    rw [Char.ofNat_toNat] at hne
    exact iff_of_false hne (not_not.mpr hcapital)
  · next hsmall => exact iff_of_true rfl hsmall

/-- A list is left as it is when each of its items is. -/
theorem map_eq_self_iff {α : Type} {f : α → α} {l : List α} : l.map f = l ↔ ∀ a ∈ l, f a = a := by
  simpa using List.map_inj_left (l := l) (f := f) (g := id)

/-- A node test is left as it is when its name has no capital. -/
@[simp] theorem NodeTest.lowered_eq_self_iff {test : NodeTest} :
    test.lowered = test ↔ test.HasNoCapital := by
  cases test with
  | name n =>
      rw [NodeTest.lowered, NodeTest.HasNoCapital, NodeTest.name.injEq, toLowerAscii,
        ← String.toList_inj, String.toList_ofList, map_eq_self_iff]
      simp only [lowerAscii_eq_self_iff]
  | anyElement => exact iff_of_true rfl trivial
  | text => exact iff_of_true rfl trivial
  | «attribute» n => exact iff_of_true rfl trivial
  | anyAttribute => exact iff_of_true rfl trivial
  | self => exact iff_of_true rfl trivial
  | parent => exact iff_of_true rfl trivial

/-- A path is left as it is when none of its names has a capital. -/
@[simp] theorem LocationPath.lowered_eq_self_iff {path : LocationPath} :
    path.lowered = path ↔ path.HasNoCapital := by
  have hstep (step : PathStep) : step.lowered = step ↔ step.test.HasNoCapital := by
    rw [← NodeTest.lowered_eq_self_iff, PathStep.lowered, PathStep.mk.injEq]
    simp
  rw [LocationPath.lowered, LocationPath.HasNoCapital]
  obtain ⟨absolute, steps⟩ := path
  simp only [LocationPath.mk.injEq, true_and, map_eq_self_iff, hstep]

/-! ## Steps -/

/-- A node test is read, its name in lower case. -/
theorem NodeTest.read_written {test : NodeTest} (h : test.IsWritable) :
    NodeTest.read test.written = .ok test.lowered := by
  cases test with
  | name n =>
      have hname : isPathName n.toList = true := h
      have hword (d : Char) {t : List Char} (hd : d ∈ t) (hother : isNameChar d = false) :
          n.toList ≠ t := ne_of_isPathName hname hd hother
      have hself : n.toList ≠ ['.'] := hword '.' (by decide) rfl
      have hparent : n.toList ≠ ['.', '.'] := hword '.' (by decide) rfl
      have hstar : n.toList ≠ ['*'] := hword '*' (by decide) rfl
      have hnode : n.toList ≠ "node()".toList := hword '(' (by decide) rfl
      have htext : n.toList ≠ "text()".toList := hword '(' (by decide) rfl
      have hattributes : n.toList ≠ ['@', '*'] := hword '*' (by decide) rfl
      simp [NodeTest.read, NodeTest.written, NodeTest.lowered, toLowerAscii, hself, hparent, hstar,
        hnode, htext, hattributes, stripPrefix?_at_eq_none hname, hname, -String.reduceToList]
  | «attribute» n =>
      have hname : isPathName n.toList = true := h
      have hstar : n.toList ≠ ['*'] := ne_of_isPathName hname List.mem_cons_self rfl
      simp [NodeTest.read, NodeTest.written, NodeTest.lowered, stripPrefix?, hname, hstar]
  | anyElement => rfl
  | text => rfl
  | anyAttribute => rfl
  | self => rfl
  | parent => rfl

/-- What a step takes is written without other marks than parentheses. -/
theorem NodeTest.ne_of_mem {test : NodeTest} (h : test.IsWritable) {c d : Char}
    (hc : c ∈ test.written) (hpath : isPathChar d = false) (hopening : (d == '(') = false)
    (hclosing : (d == ')') = false) : c ≠ d := by
  by_cases htext : test = .text
  · rintro rfl
    rw [htext] at hc
    have hall : ∀ c ∈ "text()".toList, isPathChar c || c == '(' || c == ')' := by decide
    have hc := hall c hc
    rw [hpath, hopening, hclosing] at hc
    contradiction
  · exact ne_of_isPathChar (NodeTest.isPathChar_of_mem h htext hc) hpath

/-- The conditions of a step, as they are written. -/
def bracketsText (predicates : List Predicate) : List Char :=
  predicates.flatMap fun p => '[' :: (p.written ++ [']'])

/-- Predicates begin with a bracket. -/
@[simp] theorem trimStart_bracketsText (predicates : List Predicate) :
    trimStart (bracketsText predicates) = bracketsText predicates := by
  cases predicates with
  | nil => rfl
  | cons p predicates => rfl

/-- Each bracket ends where it was closed. -/
theorem bracketGroups_bracketsText (whole : List Char) {predicates : List Predicate}
    (h : ∀ p ∈ predicates, p.IsWritable .disjunction) :
    bracketGroups whole (bracketsText predicates) = .ok (predicates.map Predicate.written) := by
  induction predicates with
  | nil => rw [bracketsText, List.flatMap_nil, bracketGroups, List.map_nil]
  | cons p predicates ih =>
      obtain ⟨hp, hpredicates⟩ := List.forall_mem_cons.mp h
      have htext : bracketsText (p :: predicates) =
          '[' :: (p.written ++ ']' :: bracketsText predicates) := by
        simp [bracketsText]
      have hclose := closeBracket?_of_balanced (Predicate.balanced_written hp)
        (bracketsText predicates)
      rw [htext, bracketGroups, if_pos rfl]
      split
      · next hnone => rw [hclose] at hnone; contradiction
      · next hsome =>
          rw [hclose] at hsome
          obtain ⟨rfl, rfl⟩ := Prod.mk.inj (Option.some.inj hsome)
          simp only [trimStart_bracketsText, ih hpredicates]
          rfl

/-- Predicates are read one after the other. -/
theorem readPredicates_written {predicates : List Predicate}
    (h : ∀ p ∈ predicates, p.IsWritable .disjunction) :
    readPredicates (predicates.map Predicate.written) = .ok predicates := by
  induction predicates with
  | nil => rfl
  | cons p predicates ih =>
      obtain ⟨hp, hpredicates⟩ := List.forall_mem_cons.mp h
      rw [List.map_cons, readPredicates, Predicate.read_written hp, ih hpredicates]
      rfl

/-- A step is read as it is written. -/
theorem PathStep.read_written {step : PathStep} (h : step.IsWritable) :
    PathStep.read step.descendant step.written = .ok step.lowered := by
  have htest : ∀ c ∈ step.test.written, (c != '[') = true :=
    fun c hc => bne_iff_ne.mpr (NodeTest.ne_of_mem h.test hc rfl rfl rfl)
  have hbrackets : (bracketsText step.predicates).takeWhile (· != '[') = [] ∧
      (bracketsText step.predicates).dropWhile (· != '[') = bracketsText step.predicates := by
    cases step.predicates with
    | nil => exact ⟨rfl, rfl⟩
    | cons p predicates => exact ⟨rfl, rfl⟩
  have hwritten : step.written = step.test.written ++ bracketsText step.predicates := rfl
  rw [PathStep.read, hwritten, List.takeWhile_append_of_pos htest,
    List.dropWhile_append_of_pos htest, hbrackets.1, hbrackets.2, List.append_nil,
    (NodeTest.hasEdges_written h.test).trim, NodeTest.read_written h.test]
  simp only [trimStart_bracketsText, bracketGroups_bracketsText _ h.predicates]
  change (readPredicates (step.predicates.map Predicate.written) >>= fun predicates =>
    pure (PathStep.mk step.descendant step.test.lowered predicates)) = _
  rw [readPredicates_written h.predicates]
  rfl

/-! ## Paths -/

/-- The pieces between slashes that further steps are written in. -/
def stepPieces (steps : List PathStep) : List (List Char) :=
  steps.flatMap fun step => if step.descendant then [[], step.written] else [step.written]

/-- A step is not cut by the slash that ends it, nor before. -/
theorem splitTopLevel_written_append {step : PathStep} (h : step.IsWritable)
    {s : List Char} {pieces : List (List Char)} (hs : splitTopLevel ['/'] true s = [] :: pieces) :
    splitTopLevel ['/'] true (step.written ++ s) = step.written :: pieces := by
  rw [splitTopLevel_balanced_append (PathStep.balanced_written h) (by decide), hs,
    foldr_consFirst_cons, List.append_nil]

/-- Further steps are cut at the slashes. -/
theorem splitTopLevel_furtherText {steps : List PathStep} (h : ∀ step ∈ steps, step.IsWritable) :
    splitTopLevel ['/'] true (furtherText steps) = [] :: stepPieces steps := by
  induction steps with
  | nil => rfl
  | cons step steps ih =>
      obtain ⟨hstep, hsteps⟩ := List.forall_mem_cons.mp h
      have hslash (s : List Char) : splitTopLevel ['/'] true ('/' :: s) =
          [] :: splitTopLevel ['/'] true s := splitTopLevel_delim_append rfl s
      have hrest := splitTopLevel_written_append hstep (ih hsteps)
      rw [furtherText, List.flatMap_cons, stepPieces, List.flatMap_cons, List.append_assoc,
        PathStep.slashes]
      cases step.descendant with
      | false => exact (hslash _).trans (congrArg ([] :: ·) hrest)
      | true =>
          exact (hslash _).trans (congrArg ([] :: ·) ((hslash _).trans (congrArg ([] :: ·) hrest)))

/-- A piece with a step in it. -/
theorem readSteps_cons {step : PathStep} (h : step.IsWritable) (pieces : List (List Char)) :
    readSteps step.descendant (step.written :: pieces) =
      (readSteps false pieces).map (step.lowered :: ·) := by
  have hne : step.written.isEmpty = false := by
    rw [List.isEmpty_eq_false_iff]
    exact (PathStep.hasEdges_written h).ne_nil
  rw [readSteps, (PathStep.hasEdges_written h).trim]
  simp only [hne, Bool.false_eq_true, if_false, PathStep.read_written h]
  rfl

/-- Steps are read, their names in lower case. -/
theorem readSteps_stepPieces {steps : List PathStep} (h : ∀ step ∈ steps, step.IsWritable) :
    readSteps false (stepPieces steps) = .ok (steps.map PathStep.lowered) := by
  induction steps with
  | nil => rfl
  | cons step steps ih =>
      obtain ⟨hstep, hsteps⟩ := List.forall_mem_cons.mp h
      have hpieces : readSteps false (stepPieces (step :: steps)) =
          readSteps step.descendant (step.written :: stepPieces steps) := by
        rw [stepPieces, List.flatMap_cons]
        cases step.descendant <;> rfl
      rw [hpieces, readSteps_cons hstep, ih hsteps]
      rfl

/-- The steps of a path are read from the pieces between its slashes. -/
theorem LocationPath.readSteps_stepsText {path : LocationPath} (h : path.IsWritable) :
    readSteps path.descends (splitTopLevel ['/'] true (stepsText path.steps)) =
      .ok path.lowered.steps := by
  rw [LocationPath.lowered, LocationPath.descends]
  cases hsteps : path.steps with
  | nil => rfl
  | cons first rest =>
      obtain ⟨hfirst, hrest⟩ := List.forall_mem_cons.mp (hsteps ▸ h.steps)
      have hpieces : splitTopLevel ['/'] true (stepsText (first :: rest)) =
          first.written :: stepPieces rest :=
        splitTopLevel_written_append hfirst (splitTopLevel_furtherText hrest)
      rw [hpieces]
      exact (readSteps_cons hfirst _).trans
        (congrArg (Except.map (first.lowered :: ·)) (readSteps_stepPieces hrest))

/-- Steps do not begin with a slash. -/
theorem stepsText_ne_slash {steps : List PathStep} (h : ∀ step ∈ steps, step.IsWritable)
    (more : List Char) : stepsText steps ≠ '/' :: more := by
  cases steps with
  | nil => exact (List.cons_ne_nil _ _).symm
  | cons first rest =>
      have htest := (h first List.mem_cons_self).test
      obtain ⟨c, front, hcons⟩ := List.exists_cons_of_ne_nil (NodeTest.written_ne_nil htest)
      have hc : c ≠ '/' := NodeTest.ne_of_mem htest (hcons ▸ List.mem_cons_self) rfl rfl rfl
      rw [stepsText, PathStep.written, hcons]
      exact fun hsame => hc (List.cons.inj hsame).1

/-- A path without anything in front of its first step does not begin as if it had. -/
theorem stepsText_ne_dot_slash {steps : List PathStep} (h : ∀ step ∈ steps, step.IsWritable)
    (hdot : beginsDotted steps = false) (more : List Char) :
    stepsText steps ≠ '.' :: '/' :: more := by
  cases steps with
  | nil => exact (List.cons_ne_nil _ _).symm
  | cons first rest =>
      have htest := (h first List.mem_cons_self).test
      obtain ⟨descendant, test, predicates⟩ := first
      have hfirst {c : Char} {s : List Char} (hc : c ≠ '.') : c :: s ≠ '.' :: '/' :: more :=
        fun hsame => hc (List.cons.inj hsame).1
      have hsecond {c : Char} {s : List Char} (hc : c ≠ '/') : '.' :: c :: s ≠ '.' :: '/' :: more :=
        fun hsame => hc (List.cons.inj (List.cons.inj hsame).2).1
      cases test with
      | name n =>
          obtain ⟨c, front, hcons⟩ := List.exists_cons_of_ne_nil (NodeTest.written_ne_nil htest)
          have hname : isPathName n.toList = true := htest
          have hc := isNameChar_of_mem hname (c := c) (by
            rw [show n.toList = c :: front from hcons]
            exact List.mem_cons_self)
          rw [stepsText, PathStep.written, hcons]
          exact hfirst (by rintro rfl; contradiction)
      | text => exact hfirst (c := 't') (by decide)
      | «attribute» n => exact hfirst (c := '@') (by decide)
      | anyElement => exact hfirst (c := '*') (by decide)
      | anyAttribute => exact hfirst (c := '@') (by decide)
      | parent => exact hsecond (c := '.') (by decide)
      | self =>
          cases predicates with
          | cons p predicates => exact hsecond (c := '[') (by decide)
          | nil =>
              cases rest with
              | nil => exact fun hsame => List.cons_ne_nil _ _ (List.cons.inj hsame).2.symm
              | cons second rest => exact absurd (show true = false from hdot) (by decide)

/-- A slash in front begins at the root. -/
theorem pathStart_slash {s : List Char} (h : ∀ more, s ≠ '/' :: more) :
    pathStart ('/' :: s) = (true, false, s) := by
  rw [pathStart.eq_def]
  split <;> simp_all

/-- A dot and a slash begin at the element. -/
theorem pathStart_dot_slash {s : List Char} (h : ∀ more, s ≠ '/' :: more) :
    pathStart ('.' :: '/' :: s) = (false, false, s) := by
  rw [pathStart.eq_def]
  split <;> simp_all

/-- So does anything else. -/
theorem pathStart_plain {s : List Char} (hslash : ∀ more, s ≠ '/' :: more)
    (hdot : ∀ more, s ≠ '.' :: '/' :: more) : pathStart s = (false, false, s) := by
  rw [pathStart.eq_def]
  split <;> simp_all

/-- What stands in front of the first step tells how the path begins. -/
theorem LocationPath.pathStart_written {path : LocationPath} (h : path.IsWritable) :
    pathStart path.written = (path.absolute, path.descends, stepsText path.steps) := by
  have hslash := stepsText_ne_slash h.steps
  rw [LocationPath.written, LocationPath.lead]
  cases path.absolute with
  | true =>
      cases path.descends with
      | true => rfl
      | false => exact pathStart_slash hslash
  | false =>
      cases path.descends with
      | true => rfl
      | false =>
          cases hdot : beginsDotted path.steps with
          | true => exact pathStart_dot_slash hslash
          | false => exact pathStart_plain hslash (stepsText_ne_dot_slash h.steps hdot)

theorem hasEdges_append_furtherText {steps : List PathStep}
    (h : ∀ step ∈ steps, step.IsWritable) {s : List Char} (hs : HasEdges s) :
    HasEdges (s ++ furtherText steps) := by
  induction steps generalizing s with
  | nil => rwa [furtherText, List.flatMap_nil, List.append_nil]
  | cons step steps ih =>
      obtain ⟨hstep, hsteps⟩ := List.forall_mem_cons.mp h
      have hfirst := hs.between (PathStep.hasEdges_written hstep) step.slashes
      rw [furtherText, List.flatMap_cons, ← List.append_assoc]
      exact ih hsteps hfirst

/-- What can stand in front of the first step. -/
theorem LocationPath.lead_mem (path : LocationPath) :
    path.lead ∈ [[], ['.', '/'], ['/'], ['/', '/'], ['.', '/', '/']] := by
  rw [LocationPath.lead]
  split
  · decide
  · decide
  · decide
  · split <;> decide

/-- A path has no blanks at its edges. -/
theorem LocationPath.hasEdges_written {path : LocationPath} (h : path.IsWritable) :
    HasEdges path.written := by
  have hedges : ∀ lead ∈ [[], ['.', '/'], ['/'], ['/', '/'], ['.', '/', '/']],
      lead = [] ∨ ∀ c ∈ lead, isBlank c = false := by decide
  rw [LocationPath.written]
  cases hsteps : path.steps with
  | nil =>
      have habsolute : path.absolute = true := by
        by_contra hrelative
        exact h.relative (Bool.eq_false_of_not_eq_true hrelative) hsteps
      have hlead : path.lead = ['/'] := by
        rw [LocationPath.lead, LocationPath.descends, habsolute, hsteps]
        rfl
      rw [hlead]
      exact .singleton rfl
  | cons first rest =>
      obtain ⟨hfirst, hrest⟩ := List.forall_mem_cons.mp (hsteps ▸ h.steps)
      have htext : HasEdges (stepsText (first :: rest)) :=
        hasEdges_append_furtherText hrest (PathStep.hasEdges_written hfirst)
      by_cases hnil : path.lead = []
      · rwa [hnil, List.nil_append]
      · exact (HasEdges.of_forall hnil ((hedges _ path.lead_mem).resolve_left hnil)).append htext

/-- A path holds no bar outside brackets and quotes. -/
theorem LocationPath.balanced_written {path : LocationPath} (h : path.IsWritable) :
    Balanced (· ≠ '|') path.written := by
  have hstep {step : PathStep} (hstep : step.IsWritable) : Balanced (· ≠ '|') step.written :=
    (PathStep.balanced_written hstep).mono fun _ hc => ne_of_isPathChar hc rfl
  have hplain : ∀ lead ∈ [[], ['.', '/'], ['/'], ['/', '/'], ['.', '/', '/']],
      ∀ c ∈ lead, isPlain true c = true ∧ c ≠ '|' := by decide
  refine (Balanced.of_forall (hplain _ path.lead_mem)).append ?_
  cases hsteps : path.steps with
  | nil => exact .nil
  | cons first rest =>
      obtain ⟨hfirst, hrest⟩ := List.forall_mem_cons.mp (hsteps ▸ h.steps)
      refine (hstep hfirst).append (.flatMap fun step hmem => .append (.of_forall ?_)
        (hstep (hrest step hmem)))
      rw [PathStep.slashes]
      split <;> decide

/-- A path is read as it is written. -/
theorem LocationPath.read_written {path : LocationPath} (h : path.IsWritable) :
    LocationPath.read path.written = .ok path.lowered := by
  have hne : path.written.isEmpty = false := by
    rw [List.isEmpty_eq_false_iff]
    exact (hasEdges_written h).ne_nil
  have hsome : (path.lowered.steps.isEmpty && !path.absolute) = false := by
    cases habsolute : path.absolute with
    | true => exact Bool.and_false _
    | false =>
        have hsteps := h.relative habsolute
        rw [Bool.not_false, Bool.and_true, List.isEmpty_eq_false_iff]
        exact fun hnil => hsteps (List.map_eq_nil_iff.mp hnil)
  rw [LocationPath.read, pathStart_written h]
  simp only [hne, Bool.false_eq_true, if_false]
  change (readSteps path.descends (splitTopLevel ['/'] true (stepsText path.steps)) >>= fun steps =>
    _) = _
  rw [readSteps_stepsText h]
  change (if (path.lowered.steps.isEmpty && !path.absolute) = true then _ else _) = _
  rw [hsome]
  rfl

/-! ## Unions -/

/-- A union is cut into its paths and nowhere else. -/
theorem splitTopLevel_unionText {paths : List LocationPath} (hne : paths ≠ [])
    (h : ∀ path ∈ paths, path.IsWritable) :
    splitTopLevel ['|'] true (unionText paths) = paths.map LocationPath.written := by
  have hmap : paths.map LocationPath.written ≠ [] := fun hnil => hne (List.map_eq_nil_iff.mp hnil)
  refine splitTopLevel_intercalate_of_isWhole rfl hmap fun s hs => ?_
  obtain ⟨path, hpath, rfl⟩ := List.mem_map.mp hs
  exact (LocationPath.balanced_written (h path hpath)).isWhole (not_not.mpr rfl)

/-- A union finds what its paths find, one after the other. -/
theorem evaluatePaths_written (element : Place) {paths : List LocationPath}
    (h : ∀ path ∈ paths, path.IsWritable) :
    evaluatePaths element (paths.map LocationPath.written) =
      orOverflow (findEach (fun path => path.lowered.evaluate element) paths) := by
  induction paths with
  | nil => rfl
  | cons path paths ih =>
      obtain ⟨hpath, hpaths⟩ := List.forall_mem_cons.mp h
      rw [List.map_cons, evaluatePaths, (LocationPath.hasEdges_written hpath).trim,
        LocationPath.read_written hpath, ih hpaths, findEach]
      change (orOverflow (path.lowered.evaluate element) >>= fun items =>
        orOverflow (findEach (fun path => path.lowered.evaluate element) paths) >>= fun others =>
          pure (items ++ others)) = _
      cases path.lowered.evaluate element with
      | none => rfl
      | some items => cases findEach (fun path => path.lowered.evaluate element) paths <;> rfl

/-- **Unions.**  The text of some paths is cut into the texts of the paths, and each of them
is read as the path, with the names of elements in small letters; so all are read as they are
exactly when none of these names has a capital letter.  The expression finds what the paths
that are read find. -/
theorem read_unionText {paths : List LocationPath} (hne : paths ≠ [])
    (h : ∀ path ∈ paths, path.IsWritable) :
    (splitTopLevel ['|'] true (unionText paths)).map (fun part => LocationPath.read (trim part)) =
        paths.map (fun path => .ok path.lowered) ∧
      ((splitTopLevel ['|'] true (unionText paths)).map
          (fun part => LocationPath.read (trim part)) = paths.map .ok ↔
        ∀ path ∈ paths, path.HasNoCapital) ∧
      ∀ element, evaluatePath element (unionText paths) =
        (orOverflow (findEach (fun path => path.lowered.evaluate element) paths)).map
          (keepFirstElements ∅) := by
  have hread : (splitTopLevel ['|'] true (unionText paths)).map
      (fun part => LocationPath.read (trim part)) = paths.map (fun path => .ok path.lowered) := by
    rw [splitTopLevel_unionText hne h, List.map_map]
    refine List.map_congr_left fun path hpath => ?_
    rw [Function.comp_apply, (LocationPath.hasEdges_written (h path hpath)).trim]
    exact LocationPath.read_written (h path hpath)
  refine ⟨hread, ?_, fun element => ?_⟩
  · rw [hread, List.map_inj_left]
    refine forall₂_congr fun path _ => ?_
    rw [Except.ok.injEq, LocationPath.lowered_eq_self_iff]
  · rw [evaluatePath, splitTopLevel_unionText hne h, evaluatePaths_written element h]
    rfl

/-- The strings hold a bar, brackets and a connective, and none of them is taken for one. -/
theorem read_unionText_marks :
    (splitTopLevel ['|'] true
        "//li[not(contains(.,'a|b')) or @x='] and [' and last()-1]/a|../@href".toList).map
        (fun part => LocationPath.read (trim part)) =
      [.ok ⟨true, [⟨true, .name "li", [.or (.not (.contains .self "a|b"))
          (.and (.equals (.attribute "x") "] and [" false) (.last 1))]⟩,
          ⟨false, .name "a", []⟩]⟩,
        .ok ⟨false, [⟨false, .parent, []⟩, ⟨false, .attribute "href", []⟩]⟩] := by
  have hcondition : Predicate.IsWritable .disjunction (.or (.not (.contains .self "a|b"))
      (.and (.equals (.attribute "x") "] and [" false) (.last 1))) := by
    refine .or (.conjunction (.atom (.not (.conjunction (.atom (.contains trivial ?_))))))
      (.and (.atom (.equals ?_ ?_)) (.last (by decide)))
    · exact fun hmarks => absurd hmarks.1 (by decide)
    · exact (by decide : isPathName "x".toList = true)
    · exact fun hmarks => absurd hmarks.1 (by decide)
  have hlist : LocationPath.IsWritable ⟨true, [⟨true, .name "li", [.or
      (.not (.contains .self "a|b")) (.and (.equals (.attribute "x") "] and [" false)
        (.last 1))]⟩, ⟨false, .name "a", []⟩]⟩ := by
    refine ⟨List.forall_mem_cons.mpr ⟨⟨?_, ?_⟩, List.forall_mem_singleton.mpr ⟨?_, ?_⟩⟩, ?_⟩
    · exact (by decide : isPathName "li".toList = true)
    · exact List.forall_mem_singleton.mpr hcondition
    · exact (by decide : isPathName "a".toList = true)
    · exact fun p hp => absurd hp List.not_mem_nil
    · exact fun hrelative => absurd hrelative (by decide)
  have hlink : LocationPath.IsWritable ⟨false, [⟨false, .parent, []⟩,
      ⟨false, .attribute "href", []⟩]⟩ := by
    refine ⟨List.forall_mem_cons.mpr ⟨⟨trivial, ?_⟩, List.forall_mem_singleton.mpr ⟨?_, ?_⟩⟩, ?_⟩
    · exact fun p hp => absurd hp List.not_mem_nil
    · exact (by decide : isPathName "href".toList = true)
    · exact fun p hp => absurd hp List.not_mem_nil
    · exact fun _ => List.cons_ne_nil _ _
  have hread := (read_unionText (List.cons_ne_nil _ _)
    (List.forall_mem_cons.mpr ⟨hlist, List.forall_mem_singleton.mpr hlink⟩)).1
  exact hread

/-- A name with a capital letter is not read as itself. -/
theorem not_read_capital : ¬∀ paths : List LocationPath, paths ≠ [] →
    (∀ path ∈ paths, path.IsWritable) →
      (splitTopLevel ['|'] true (unionText paths)).map
        (fun part => LocationPath.read (trim part)) = paths.map .ok := by
  intro hclaim
  have hwritable : LocationPath.IsWritable ⟨true, [⟨true, .name "foreignObject", []⟩]⟩ := by
    refine ⟨List.forall_mem_singleton.mpr ⟨?_, ?_⟩, fun _ => List.cons_ne_nil _ _⟩
    · exact (by decide : isPathName "foreignObject".toList = true)
    · exact fun p hp => absurd hp List.not_mem_nil
  have hall := List.forall_mem_singleton.mpr hwritable
  have hself := hclaim _ (List.cons_ne_nil _ _) hall
  rw [splitTopLevel_unionText (List.cons_ne_nil _ _) hall, List.map_map, List.map_singleton,
    List.map_singleton, Function.comp_apply, (LocationPath.hasEdges_written hwritable).trim,
    LocationPath.read_written hwritable] at hself
  exact absurd (Except.ok.inj (List.cons.inj hself).1) (by decide)

end Folio.Rule
