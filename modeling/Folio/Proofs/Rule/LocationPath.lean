import Folio.Proofs.Markup.Place
import Folio.Rule.LocationPath
import Mathlib.Data.List.Basic

/-!
# Folio.Proofs.Rule.LocationPath

The elements that a location path finds.  The evaluator drops what it has found
before twice: a step drops contexts by their keys, and the whole drops elements
by their paths.  The second alone decides what remains, so that the elements of
a path are those that its last step takes from its contexts, each where it
stands first.

A condition may have no answer, and then neither has a step or a path that asks
it.  What these find otherwise is said by total functions (`PathStep.survivors`,
`LocationPath.found`).
-/

namespace Folio.Rule

open Folio.Markup

/-! ## Elements -/

/-- The element that is found. -/
def PathItem.place? : PathItem → Option Place
  | .node c => some c.element
  | .text _ => none

/-- The element that is a result. -/
def PathResult.place? : PathResult → Option Place
  | .element p => some p
  | .text _ => none

/-- What a path finds; nothing where it has no answer. -/
def LocationPath.found (path : LocationPath) (element : Place) : List PathItem :=
  (path.evaluate element).getD []

/-- The elements among the results of a path. -/
def LocationPath.elements (path : LocationPath) (element : Place) : List Place :=
  (keepFirstElements ∅ (path.found element)).filterMap PathResult.place?

/-- The contexts that a step takes candidates from. -/
def PathStep.contexts (step : PathStep) (items : List PathItem) : List PathContext :=
  (itemContexts items).flatMap fun c => if step.descendant then c.withDescendants else [c]

/-- The candidates of a context that survive the conditions of a step; none where
one of these has no answer. -/
def PathStep.survivors (step : PathStep) (c : PathContext) : List PathItem :=
  (keepAll step.predicates (step.test.candidates c)).getD []

/-- The elements that a step takes from one of its contexts. -/
def PathStep.taken (step : PathStep) (c : PathContext) : List Place :=
  (step.survivors c).filterMap PathItem.place?

/-- The places that stand neither among the earlier ones nor before
themselves. -/
def firstPlaces (earlier : List Place) : List Place → List Place
  | [] => []
  | p :: rest =>
    if earlier.any (·.same p) then firstPlaces (p :: earlier) rest
    else p :: firstPlaces (p :: earlier) rest

/-! ## Conditions -/

/-- A condition only takes candidates away. -/
theorem keepFrom_sublist {p : Predicate} {size position : Nat} {items kept : List PathItem}
    (h : p.keepFrom size position items = some kept) : kept.Sublist items := by
  induction items generalizing position kept with
  | nil => exact Option.some.inj h ▸ List.Sublist.refl _
  | cons item items ih =>
      obtain ⟨holds, -, h⟩ := Option.bind_eq_some_iff.mp h
      obtain ⟨others, hothers, h⟩ := Option.bind_eq_some_iff.mp h
      obtain rfl := Option.some.inj h
      cases holds with
      | true => exact (ih hothers).cons_cons item
      | false => exact (ih hothers).cons item

/-- Conditions only take candidates away. -/
theorem keepAll_sublist {ps : List Predicate} {items kept : List PathItem}
    (h : keepAll ps items = some kept) : kept.Sublist items := by
  induction ps generalizing items with
  | nil => exact Option.some.inj h ▸ List.Sublist.refl _
  | cons p ps ih =>
      obtain ⟨left, hleft, hkept⟩ := Option.bind_eq_some_iff.mp h
      exact (ih hkept).trans (keepFrom_sublist hleft)

/-- What survives is some of the candidates, in their order. -/
theorem PathStep.survivors_sublist (step : PathStep) (c : PathContext) :
    (step.survivors c).Sublist (step.test.candidates c) := by
  rw [PathStep.survivors]
  cases hkept : keepAll step.predicates (step.test.candidates c) with
  | none => exact List.nil_sublist _
  | some kept => exact keepAll_sublist hkept

/-! ## Steps -/

/-- There is an answer exactly when there is one for each, and it joins these. -/
theorem findEach_eq_some_iff {α β : Type} {find : α → Option (List β)} {l : List α}
    {found : List β} :
    findEach find l = some found ↔
      (∀ a ∈ l, (find a).isSome = true) ∧ found = l.flatMap fun a => (find a).getD [] := by
  induction l generalizing found with
  | nil =>
      rw [findEach, Option.some.injEq, List.flatMap_nil, eq_comm]
      exact ⟨fun h => ⟨fun _ ha => absurd ha List.not_mem_nil, h⟩, fun h => h.2⟩
  | cons a l ih =>
      rw [List.forall_mem_cons, List.flatMap_cons]
      constructor
      · intro h
        obtain ⟨first, hfirst, h⟩ := Option.bind_eq_some_iff.mp h
        obtain ⟨rest, hrest, h⟩ := Option.bind_eq_some_iff.mp h
        obtain ⟨hall, hjoined⟩ := ih.mp hrest
        rw [hfirst, ← hjoined]
        exact ⟨⟨rfl, hall⟩, (Option.some.inj h).symm⟩
      · rintro ⟨⟨hsome, hall⟩, rfl⟩
        obtain ⟨first, hfirst⟩ := Option.isSome_iff_exists.mp hsome
        rw [findEach, hfirst, ih.mpr ⟨hall, rfl⟩]
        rfl

/-- **One step.**  A step has an answer exactly when its conditions have one for
the candidates from each of its contexts, and finds those that survive them. -/
theorem PathStep.apply_eq_some_iff {step : PathStep} {items next : List PathItem} :
    step.apply items = some next ↔
      (∀ c ∈ step.contexts items,
        (keepAll step.predicates (step.test.candidates c)).isSome = true) ∧
      next = keepFirst ∅ ((step.contexts items).flatMap step.survivors) := by
  have hfound {c : PathContext} {found : List PathItem} : step.found c = some found ↔ _ :=
    findEach_eq_some_iff
  have hgetD (hall : ∀ c ∈ itemContexts items, (step.found c).isSome = true) :
      ((itemContexts items).flatMap fun c => (step.found c).getD []) =
        (step.contexts items).flatMap step.survivors := by
    rw [PathStep.contexts, List.flatMap_assoc]
    refine List.flatMap_congr fun c hc => ?_
    obtain ⟨found, hsome⟩ := Option.isSome_iff_exists.mp (hall c hc)
    rw [hsome, Option.getD_some, (hfound.mp hsome).2]
    rfl
  have hisSome : (∀ c ∈ itemContexts items, (step.found c).isSome = true) ↔
      ∀ c ∈ step.contexts items,
        (keepAll step.predicates (step.test.candidates c)).isSome = true := by
    simp only [Option.isSome_iff_exists, hfound, exists_and_left, exists_eq, and_true,
      PathStep.contexts, List.forall_mem_flatMap]
  rw [PathStep.apply, Option.map_eq_some_iff]
  simp only [findEach_eq_some_iff, ← hisSome]
  constructor
  · rintro ⟨found, ⟨hall, rfl⟩, rfl⟩
    exact ⟨hall, by rw [hgetD hall]⟩
  · rintro ⟨hall, rfl⟩
    exact ⟨_, ⟨hall, rfl⟩, by rw [hgetD hall]⟩

/-- Steps in two groups are applied group by group, unless the first group stops. -/
theorem applySteps_append (front back : List PathStep) (items : List PathItem) :
    applySteps (front ++ back) items = (applySteps front items).bind (applySteps back) := by
  induction front generalizing items with
  | nil => rfl
  | cons step front ih =>
      rw [List.cons_append, applySteps, applySteps, Option.bind_assoc]
      exact congrArg _ (funext ih)

/-- The condition has an answer for every candidate. -/
def Predicate.IsTotal (p : Predicate) : Prop :=
  ∀ item position size, (p.holds item position size).isSome = true

theorem Predicate.IsTotal.keepFrom {p : Predicate} (h : p.IsTotal) (size position : Nat)
    (items : List PathItem) : (p.keepFrom size position items).isSome = true := by
  induction items generalizing position with
  | nil => rfl
  | cons item items ih =>
      obtain ⟨holds, hholds⟩ := Option.isSome_iff_exists.mp (h item position size)
      obtain ⟨kept, hkept⟩ := Option.isSome_iff_exists.mp (ih (position + 1))
      rw [Predicate.keepFrom, hholds, hkept]
      rfl

/-- Total predicates never stop. -/
theorem isSome_keepAll {ps : List Predicate} (h : ∀ p ∈ ps, p.IsTotal) (items : List PathItem) :
    (keepAll ps items).isSome = true := by
  induction ps generalizing items with
  | nil => rfl
  | cons p ps ih =>
      obtain ⟨hp, hps⟩ := List.forall_mem_cons.mp h
      obtain ⟨kept, hkept⟩ := Option.isSome_iff_exists.mp (hp.keepFrom items.length 1 items)
      rw [keepAll, Predicate.keep, hkept]
      exact ih hps kept

/-- Steps have an answer when each of them has one for items with a property that
it keeps. -/
theorem isSome_applySteps {P : List PathItem → Prop} {steps : List PathStep}
    (hsome : ∀ step ∈ steps, ∀ items, P items → (step.apply items).isSome = true)
    (hkeeps : ∀ step ∈ steps, ∀ items next, step.apply items = some next → P items → P next)
    {items : List PathItem} (h : P items) : (applySteps steps items).isSome = true := by
  induction steps generalizing items with
  | nil => rfl
  | cons step steps ih =>
      obtain ⟨hfirst, hrest⟩ := List.forall_mem_cons.mp hsome
      obtain ⟨hkeep, hkeeps⟩ := List.forall_mem_cons.mp hkeeps
      obtain ⟨next, hnext⟩ := Option.isSome_iff_exists.mp (hfirst items h)
      rw [applySteps, hnext]
      exact ih hrest hkeeps (hkeep items next hnext h)

/-- A path whose conditions always have an answer has one as well. -/
theorem LocationPath.isSome_evaluate {path : LocationPath}
    (h : ∀ step ∈ path.steps, ∀ p ∈ step.predicates, p.IsTotal) (element : Place) :
    (path.evaluate element).isSome = true := by
  refine isSome_applySteps (P := fun _ => True) (fun step hstep items _ => ?_)
    (fun _ _ _ _ _ _ => trivial) trivial
  refine Option.isSome_iff_exists.mpr ⟨_, PathStep.apply_eq_some_iff.mpr ⟨fun c _ => ?_, rfl⟩⟩
  exact isSome_keepAll (h step hstep) _

/-- The last step is taken from what those before it find. -/
theorem LocationPath.evaluate_concat {path : LocationPath} {before : List PathStep}
    {last : PathStep} (h : path.steps = before ++ [last]) (element : Place) :
    path.evaluate element =
      (LocationPath.evaluate ⟨path.absolute, before⟩ element).bind last.apply := by
  rw [LocationPath.evaluate, h, applySteps_append]
  refine congrArg _ (funext fun items => ?_)
  rw [applySteps]
  cases last.apply items <;> rfl

/-- What a path finds is what its last step finds. -/
theorem LocationPath.found_concat {path : LocationPath} {before : List PathStep}
    {last : PathStep} (h : path.steps = before ++ [last]) {element : Place}
    (hsome : (path.evaluate element).isSome = true) :
    path.found element = keepFirst ∅
      ((last.contexts (LocationPath.found ⟨path.absolute, before⟩ element)).flatMap
        last.survivors) := by
  obtain ⟨items, hitems⟩ := Option.isSome_iff_exists.mp hsome
  rw [LocationPath.evaluate_concat h] at hitems
  obtain ⟨contexts, hcontexts, hlast⟩ := Option.bind_eq_some_iff.mp hitems
  rw [LocationPath.found, LocationPath.evaluate_concat h, hitems, LocationPath.found, hcontexts]
  exact (PathStep.apply_eq_some_iff.mp hlast).2

/-! ## First occurrences -/

/-- The same place is one with the same path. -/
theorem any_same_iff {earlier : List Place} {p : Place} :
    earlier.any (·.same p) = true ↔ ∃ q ∈ earlier, q.path = p.path := by
  simp [Place.same]

/-- The first occurrences are some of the places, in their order. -/
theorem firstPlaces_sublist (earlier places : List Place) :
    (firstPlaces earlier places).Sublist places := by
  induction places generalizing earlier with
  | nil => exact List.Sublist.refl []
  | cons p places ih =>
      rw [firstPlaces]
      split
      · exact (ih (p :: earlier)).cons p
      · exact (ih (p :: earlier)).cons_cons p

/-- A place that was seen before is passed over. -/
theorem firstPlaces_cons_of_seen {earlier : List Place} {p : Place}
    (h : ∃ q ∈ earlier, q.path = p.path) (places : List Place) :
    firstPlaces earlier (p :: places) = firstPlaces (p :: earlier) places := by
  rw [firstPlaces, if_pos (any_same_iff.mpr h)]

/-- A place that is new is kept. -/
theorem firstPlaces_cons_of_new {earlier : List Place} {p : Place}
    (h : ∀ q ∈ earlier, q.path ≠ p.path) (places : List Place) :
    firstPlaces earlier (p :: places) = p :: firstPlaces (p :: earlier) places := by
  have hany : ¬earlier.any (·.same p) = true := by
    rw [any_same_iff]
    rintro ⟨q, hq, heq⟩
    exact h q hq heq
  rw [firstPlaces, if_neg hany]

/-- What is kept was either new or is kept of the rest. -/
theorem mem_firstPlaces_cons {earlier places : List Place} {p q : Place} :
    p ∈ firstPlaces earlier (q :: places) ↔
      (p = q ∧ ∀ r ∈ earlier, r.path ≠ p.path) ∨ p ∈ firstPlaces (q :: earlier) places := by
  by_cases hseen : ∃ r ∈ earlier, r.path = q.path
  · rw [firstPlaces_cons_of_seen hseen]
    constructor
    · exact Or.inr
    · rintro (⟨rfl, hnew⟩ | h)
      · obtain ⟨r, hr, heq⟩ := hseen
        exact absurd heq (hnew r hr)
      · exact h
  · have hnew : ∀ r ∈ earlier, r.path ≠ q.path := fun r hr heq => hseen ⟨r, hr, heq⟩
    rw [firstPlaces_cons_of_new hnew, List.mem_cons]
    constructor
    · rintro (rfl | h)
      · exact Or.inl ⟨rfl, hnew⟩
      · exact Or.inr h
    · rintro (⟨rfl, _⟩ | h)
      · exact Or.inl rfl
      · exact Or.inr h

/-- Where a place stands first. -/
theorem mem_firstPlaces_iff {earlier places : List Place} {p : Place} :
    p ∈ firstPlaces earlier places ↔
      ∃ before after, places = before ++ p :: after ∧
        (∀ q ∈ before, q.path ≠ p.path) ∧ ∀ q ∈ earlier, q.path ≠ p.path := by
  induction places generalizing earlier with
  | nil => simp [firstPlaces]
  | cons r places ih =>
      rw [mem_firstPlaces_cons, ih]
      constructor
      · rintro (⟨rfl, hearlier⟩ | ⟨before, after, rfl, hbefore, hearlier⟩)
        · exact ⟨[], places, rfl, by simp, hearlier⟩
        · obtain ⟨hr, hearlier⟩ := List.forall_mem_cons.mp hearlier
          exact ⟨r :: before, after, rfl, List.forall_mem_cons.mpr ⟨hr, hbefore⟩, hearlier⟩
      · rintro ⟨before, after, hplaces, hbefore, hearlier⟩
        cases before with
        | nil => exact Or.inl ⟨(List.cons.inj hplaces).1.symm, hearlier⟩
        | cons q before =>
            obtain ⟨rfl, htail⟩ := List.cons.inj hplaces
            obtain ⟨hr, hbefore⟩ := List.forall_mem_cons.mp hbefore
            exact Or.inr
              ⟨before, after, htail, hbefore, List.forall_mem_cons.mpr ⟨hr, hearlier⟩⟩

/-- Places that are distinct are all first. -/
theorem firstPlaces_eq_self {earlier places : List Place}
    (h : places.Pairwise fun p q => p.path ≠ q.path)
    (hearlier : ∀ p ∈ earlier, ∀ q ∈ places, p.path ≠ q.path) :
    firstPlaces earlier places = places := by
  induction places generalizing earlier with
  | nil => rfl
  | cons p places ih =>
      obtain ⟨hp, hplaces⟩ := List.pairwise_cons.mp h
      have hnew : ∀ q ∈ earlier, q.path ≠ p.path :=
        fun q hq => hearlier q hq p List.mem_cons_self
      rw [firstPlaces_cons_of_new hnew, ih hplaces]
      intro q hq r hr
      rcases List.mem_cons.mp hq with rfl | hq
      · exact hp r hr
      · exact hearlier q hq r (List.mem_cons_of_mem p hr)

/-! ## The elements of a path -/

/-- The evaluator's set holds the paths of the earlier places. -/
def Holds (seen : Std.HashSet (List Nat)) (earlier : List Place) : Prop :=
  ∀ path, path ∈ seen ↔ path ∈ earlier.map Place.path

/-- Nothing has been seen at the beginning. -/
theorem holds_empty : Holds ∅ [] := by
  intro path
  simp

/-- A place that is entered has been seen. -/
theorem holds_insert {seen : Std.HashSet (List Nat)} {earlier : List Place}
    (h : Holds seen earlier) (p : Place) : Holds (seen.insert p.path) (p :: earlier) := by
  intro path
  rw [Std.HashSet.mem_insert, h path, List.map_cons, List.mem_cons, beq_iff_eq, eq_comm]

/-- A place that is there already need not be entered. -/
theorem holds_cons {seen : Std.HashSet (List Nat)} {earlier : List Place} {p : Place}
    (h : Holds seen earlier) (hp : p.path ∈ seen) : Holds seen (p :: earlier) := by
  intro path
  rw [List.map_cons, List.mem_cons, ← h path]
  constructor
  · exact Or.inr
  · rintro (rfl | hmem)
    · exact hp
    · exact hmem

/-- The evaluator keeps the first occurrences of elements. -/
theorem filterMap_keepFirstElements {seen : Std.HashSet (List Nat)} {earlier : List Place}
    (h : Holds seen earlier) (items : List PathItem) :
    (keepFirstElements seen items).filterMap PathResult.place? =
      firstPlaces earlier (items.filterMap PathItem.place?) := by
  induction items generalizing seen earlier with
  | nil => rfl
  | cons item items ih =>
      cases item with
      | text content => exact ih h
      | node c =>
          have hplace : (PathItem.node c :: items).filterMap PathItem.place? =
              c.element :: items.filterMap PathItem.place? := rfl
          rw [hplace, keepFirstElements]
          by_cases hseen : c.element.path ∈ seen
          · have hearlier : ∃ q ∈ earlier, q.path = c.element.path :=
              List.mem_map.mp ((h _).mp hseen)
            rw [if_pos hseen, firstPlaces_cons_of_seen hearlier]
            exact ih (holds_cons h hseen)
          · have hearlier : ∀ q ∈ earlier, q.path ≠ c.element.path :=
              fun q hq heq => hseen ((h _).mpr (List.mem_map.mpr ⟨q, hq, heq⟩))
            rw [if_neg hseen, firstPlaces_cons_of_new hearlier,
              ← ih (holds_insert h c.element)]
            rfl

/-- Contexts dropped for their keys are elements that stand earlier. -/
theorem keepFirstElements_keepFirst {keys : Std.HashSet (Bool × List Nat)}
    {seen : Std.HashSet (List Nat)} (h : ∀ key ∈ keys, key.2 ∈ seen) (items : List PathItem) :
    keepFirstElements seen (keepFirst keys items) = keepFirstElements seen items := by
  induction items generalizing keys seen with
  | nil => rfl
  | cons item items ih =>
      cases item with
      | text content =>
          simp [keepFirst, keepFirstElements, ih h]
      | node c =>
          by_cases hkey : c.key ∈ keys
          · have hseen : c.element.path ∈ seen := h _ hkey
            rw [keepFirst, if_pos hkey, keepFirstElements, if_pos hseen, ih h]
          · have hinsert : ∀ key ∈ keys.insert c.key, key.2 ∈ seen.insert c.element.path := by
              intro key hmem
              rw [Std.HashSet.mem_insert] at hmem ⊢
              rcases hmem with heq | hmem
              · rw [beq_iff_eq] at heq
                subst heq
                exact Or.inl (beq_self_eq_true _)
              · exact Or.inr (h key hmem)
            rw [keepFirst, if_neg hkey, keepFirstElements, keepFirstElements]
            by_cases hseen : c.element.path ∈ seen
            · rw [if_pos hseen, if_pos hseen]
              apply ih
              intro key hmem
              rw [Std.HashSet.mem_insert] at hmem
              rcases hmem with heq | hmem
              · rw [beq_iff_eq] at heq
                rw [← heq]
                exact hseen
              · exact h key hmem
            · rw [if_neg hseen, if_neg hseen, ih hinsert]

/-- A step that descends begins at every context and everything below it. -/
theorem PathStep.contexts_of_descendant {step : PathStep} (h : step.descendant = true)
    (items : List PathItem) :
    step.contexts items = (itemContexts items).flatMap (·.withDescendants) := by
  rw [PathStep.contexts, h]
  rfl

/-- A path that stops has no elements. -/
theorem LocationPath.elements_eq_nil {path : LocationPath} {element : Place}
    (h : ¬(path.evaluate element).isSome = true) : path.elements element = [] := by
  rw [LocationPath.elements, LocationPath.found, Option.not_isSome_iff_eq_none.mp h]
  rfl

/-- **Elements of a path.**  The elements are those that the last step takes
from its contexts, each where it stands first. -/
theorem LocationPath.elements_eq {path : LocationPath} {before : List PathStep} {last : PathStep}
    (h : path.steps = before ++ [last]) {element : Place}
    (hsome : (path.evaluate element).isSome = true) :
    path.elements element =
      firstPlaces []
        ((last.contexts (LocationPath.found ⟨path.absolute, before⟩ element)).flatMap
          last.taken) := by
  rw [LocationPath.elements, LocationPath.found_concat h hsome,
    keepFirstElements_keepFirst (by simp), filterMap_keepFirstElements holds_empty,
    List.filterMap_flatMap]
  rfl

/-! ## Expressions -/

/-- An expression that is one path finds what this finds. -/
theorem evaluatePath_of_read {expression : List Char} {path : LocationPath}
    (hsplit : splitTopLevel ['|'] true expression = [expression])
    (hread : (LocationPath.read (Text.trim expression)).toOption = some path) (element : Place) :
    evaluatePath element expression =
      (orOverflow (path.evaluate element)).map (keepFirstElements ∅) := by
  have hpath : LocationPath.read (Text.trim expression) = .ok path := by
    cases hresult : LocationPath.read (Text.trim expression) with
    | error e =>
        rw [hresult] at hread
        contradiction
    | ok read =>
        rw [hresult] at hread
        rw [Option.some.inj hread]
  rw [evaluatePath, hsplit, evaluatePaths, hpath]
  change (orOverflow (path.evaluate element) >>= fun items =>
    evaluatePaths element [] >>= fun others => pure (items ++ others)) >>= (fun items =>
      pure (keepFirstElements ∅ items)) = _
  cases path.evaluate element with
  | none => rfl
  | some items =>
      have hitems : items ++ [] = items := List.append_nil items
      change Except.ok (keepFirstElements ∅ (items ++ [])) = .ok (keepFirstElements ∅ items)
      rw [hitems]

/-- The same for a path that has an answer. -/
theorem evaluatePath_of_isSome {expression : List Char} {path : LocationPath}
    (hsplit : splitTopLevel ['|'] true expression = [expression])
    (hread : (LocationPath.read (Text.trim expression)).toOption = some path) {element : Place}
    (hsome : (path.evaluate element).isSome = true) :
    evaluatePath element expression = .ok (keepFirstElements ∅ (path.found element)) := by
  obtain ⟨items, hitems⟩ := Option.isSome_iff_exists.mp hsome
  rw [evaluatePath_of_read hsplit hread, LocationPath.found, hitems]
  rfl

end Folio.Rule
