import Folio.Proofs.Text.Search
import Folio.Rule.JsonPath

/-!
# Folio.Proofs.Rule.JsonSyntax

The grammar of JSON paths.  Selectors are read where they are written one
behind the other (`readSelectors_of_spelled`) and nowhere else
(`spelled_of_readSelectors`), so that a path is cut wherever selectors are put
behind it (`SpelledPath.append`), whatever names, keys and positions it has.
What joined selectors take from a value is what the second take from everything
that the first take (`applySelectors_append`).
-/

namespace Folio.Rule

open Folio.Text

/-! ## Selectors -/

/-- A name as it stands in a path. -/
structure IsName (name : List Char) : Prop where
  ne_nil : name ≠ []
  plain : ∀ c ∈ name, endsName c = false

/-- The text has nothing that a name before it could go on with. -/
def EndsNames (s : List Char) : Prop := ∀ c ∈ s.head?, endsName c = true

/-- The text writes the selectors, one behind the other. -/
inductive Spelled : List Char → List JsonSelector → Prop
  | nil : Spelled [] []
  | descend {name s : List Char} {selectors : List JsonSelector} (hname : IsName name)
      (h : Spelled s selectors) :
      Spelled ('.' :: '.' :: (name ++ s)) (.descend (String.ofList name) :: selectors)
  | name {name s : List Char} {selectors : List JsonSelector} (hname : IsName name)
      (h : Spelled s selectors) : Spelled ('.' :: (name ++ s)) (nameSelector name :: selectors)
  | bracket {inner s : List Char} {selector : JsonSelector} {selectors : List JsonSelector}
      (hinner : ']' ∉ inner) (hselector : bracketSelector [] (trim inner) = .ok selector)
      (h : Spelled s selectors) : Spelled ('[' :: (inner ++ ']' :: s)) (selector :: selectors)

variable {path name s t : List Char} {selector : JsonSelector}
  {selectors others : List JsonSelector}

/-- A selector ends the name before it. -/
theorem Spelled.endsNames (h : Spelled s selectors) : EndsNames s := by
  cases h with
  | nil => exact fun c hc => nomatch hc
  | descend => exact fun c hc => Option.some.inj hc ▸ rfl
  | name => exact fun c hc => Option.some.inj hc ▸ rfl
  | bracket => exact fun c hc => Option.some.inj hc ▸ rfl

/-- Selectors behind selectors. -/
theorem Spelled.append (hs : Spelled s selectors) (ht : Spelled t others) :
    Spelled (s ++ t) (selectors ++ others) := by
  induction hs with
  | nil => exact ht
  | descend hname _ ih =>
      rw [List.cons_append, List.cons_append, List.append_assoc]
      exact .descend hname ih
  | name hname _ ih =>
      rw [List.cons_append, List.append_assoc]
      exact .name hname ih
  | bracket hinner hselector _ ih =>
      rw [List.cons_append, List.append_assoc, List.cons_append]
      exact .bracket hinner hselector ih

/-! ## Reading -/

/-- Characters that end no name make one, if there are any. -/
theorem isName_takeWhile (h : ¬(s.takeWhile fun c => !endsName c).isEmpty = true) :
    IsName (s.takeWhile fun c => !endsName c) := by
  refine ⟨fun hnil => h (List.isEmpty_iff.mpr hnil), fun c hc => ?_⟩
  simpa using List.mem_takeWhile_imp hc

theorem IsName.not_isEmpty (hname : IsName name) : ¬name.isEmpty = true :=
  fun hempty => hname.ne_nil (List.isEmpty_iff.mp hempty)

/-- A name is read up to what ends it. -/
theorem IsName.takeWhile_append (hname : IsName name) (hs : EndsNames s) :
    ((name ++ s).takeWhile fun c => !endsName c) = name := by
  have hstop : (s.takeWhile fun c => !endsName c) = [] := by
    cases s with
    | nil => rfl
    | cons c s => rw [List.takeWhile_cons_of_neg (by simp [hs c rfl])]
  rw [List.takeWhile_append_of_pos fun c hc => by simp [hname.plain c hc], hstop, List.append_nil]

/-- What is behind a name is what ends it. -/
theorem IsName.dropWhile_append (hname : IsName name) (hs : EndsNames s) :
    ((name ++ s).dropWhile fun c => !endsName c) = s := by
  have hstop : (s.dropWhile fun c => !endsName c) = s := by
    cases s with
    | nil => rfl
    | cons c s => rw [List.dropWhile_cons_of_neg (by simp [hs c rfl])]
  rw [List.dropWhile_append_of_pos fun c hc => by simp [hname.plain c hc], hstop]

theorem IsName.exists_cons (hname : IsName name) :
    ∃ c rest, name = c :: rest ∧ endsName c = false := by
  obtain ⟨c, rest, rfl⟩ := List.exists_cons_of_ne_nil hname.ne_nil
  exact ⟨c, rest, rfl, hname.plain c List.mem_cons_self⟩

/-- The path around brackets is only reported. -/
theorem bracketSelector_eq_ok {inner : List Char} (h : bracketSelector path inner = .ok selector)
    (other : List Char) : bracketSelector other inner = .ok selector := by
  unfold bracketSelector at h ⊢
  split
  · next hall => rwa [if_pos hall] at h
  · next hall =>
    rw [if_neg hall] at h
    split
    · next hquoted => simpa only [hquoted] using h
    · next hsingle =>
      split
      · next hquoted => simpa only [hsingle, hquoted] using h
      · next hdouble =>
        simp only [hsingle, hdouble] at h
        split
        · next hposition => simpa only [hposition] using h
        · next hposition =>
          simp only [hposition] at h
          cases h

/-- What is read as selectors spells them. -/
theorem spelled_of_readSelectors (h : readSelectors path s = .ok selectors) :
    Spelled s selectors := by
  fun_induction readSelectors path s generalizing selectors
  case case1 =>
    cases h
    exact .nil
  case case4 after key hkey rest hrest ih =>
    cases h
    have hspelled := Spelled.descend (isName_takeWhile hkey) (ih hrest)
    rwa [List.takeWhile_append_dropWhile] at hspelled
  case case7 after _ key hkey rest hrest ih =>
    cases h
    have hspelled := Spelled.name (isName_takeWhile hkey) (ih hrest)
    rwa [List.takeWhile_append_dropWhile] at hspelled
  case case11 after inner mark afterwards hdrop selector hselector rest hrest ih =>
    cases h
    have hmark : mark = ']' := by
      have hhead := List.head?_dropWhile_not (· != ']') after
      rw [hdrop] at hhead
      simpa using hhead
    have hafter : inner ++ ']' :: afterwards = after := by
      rw [← hmark, ← hdrop, List.takeWhile_append_dropWhile]
    have hinner : ']' ∉ inner := fun hmem => by simpa using List.mem_takeWhile_imp hmem
    rw [← hafter]
    exact .bracket hinner (bracketSelector_eq_ok hselector []) (ih hrest)
  -- in the other cases the path cannot be read
  all_goals cases h

/-- Spelled selectors are read. -/
theorem readSelectors_of_spelled (h : Spelled s selectors) (path : List Char) :
    readSelectors path s = .ok selectors := by
  induction h with
  | nil => rw [readSelectors]
  | descend hname h ih =>
      rw [readSelectors]
      simp only [hname.takeWhile_append h.endsNames, hname.dropWhile_append h.endsNames, ih,
        if_neg hname.not_isEmpty]
  | @name name s selectors hname h ih =>
      have hdot : ∀ after, name ++ s = '.' :: after → False := by
        intro after hafter
        obtain ⟨c, rest, rfl, hc⟩ := hname.exists_cons
        rw [List.cons_append, List.cons.injEq] at hafter
        rw [hafter.1] at hc
        contradiction
      rw [readSelectors]
      · simp only [hname.takeWhile_append h.endsNames, hname.dropWhile_append h.endsNames, ih,
          if_neg hname.not_isEmpty]
      · exact hdot
  | @bracket inner s selector selectors hinner hselector _ ih =>
      have hinside : ∀ c ∈ inner, (c != ']') = true := by
        intro c hc
        rw [bne_iff_ne]
        rintro rfl
        exact hinner hc
      have htake : (inner ++ ']' :: s).takeWhile (· != ']') = inner := by
        rw [List.takeWhile_append_of_pos hinside, List.takeWhile_cons_of_neg (by decide),
          List.append_nil]
      have hdrop : (inner ++ ']' :: s).dropWhile (· != ']') = ']' :: s := by
        rw [List.dropWhile_append_of_pos hinside, List.dropWhile_cons_of_neg (by decide)]
      rw [readSelectors]
      split
      · next hnil =>
        rw [hdrop] at hnil
        contradiction
      · next mark afterwards hcons =>
        obtain ⟨-, rfl⟩ := List.cons.inj (hcons.symm.trans hdrop)
        simp only [htake, bracketSelector_eq_ok hselector path, ih]

/-! ## Paths -/

/-- The text writes the selectors of a path behind the mark of the root, where a name
may stand first. -/
inductive SpelledPath : List Char → List JsonSelector → Prop
  | marked {s : List Char} {selectors : List JsonSelector} (h : Spelled s selectors) :
      SpelledPath s selectors
  | name {name s : List Char} {selectors : List JsonSelector} (hname : IsName name)
      (h : Spelled s selectors) : SpelledPath (name ++ s) (nameSelector name :: selectors)

/-- Selectors behind a path. -/
theorem SpelledPath.append (hs : SpelledPath s selectors) (ht : Spelled t others) :
    SpelledPath (s ++ t) (selectors ++ others) := by
  cases hs with
  | marked h => exact .marked (h.append ht)
  | name hname h =>
      rw [List.append_assoc]
      exact .name hname (h.append ht)

/-- A path that begins with the mark of a selector has no name in front. -/
theorem SpelledPath.spelled (h : SpelledPath s selectors) (hs : EndsNames s) :
    Spelled s selectors := by
  cases h with
  | marked h => exact h
  | name hname h =>
      obtain ⟨c, rest, rfl, hc⟩ := hname.exists_cons
      rw [hs c rfl] at hc
      contradiction

/-- A path without blanks around it and without the mark of the root, if it has that. -/
def belowRoot (path : List Char) : List Char := (stripPrefix? ['$'] (trim path)).getD (trim path)

/-- Behind the mark of the root stand the selectors. -/
theorem belowRoot_rooted (htrim : trim ('$' :: s) = '$' :: s) : belowRoot ('$' :: s) = s := by
  rw [belowRoot, htrim]
  rfl

/-- **Paths.**  A path is read as the selectors that it spells. -/
theorem readJsonPath_eq_ok_iff :
    readJsonPath path = .ok selectors ↔ SpelledPath (belowRoot path) selectors := by
  rw [readJsonPath]
  generalize hs : belowRoot path = s
  rw [belowRoot] at hs
  simp only [hs]
  constructor
  · intro h
    split at h
    · cases h
      exact .marked .nil
    · next c rest =>
      split at h
      · exact .marked (spelled_of_readSelectors h)
      · next hc =>
        split at h
        · cases h
        · next others hothers =>
          cases h
          have hname : IsName ((c :: rest).takeWhile fun c => !endsName c) :=
            isName_takeWhile (by simp [hc])
          have hspelled := SpelledPath.name hname (spelled_of_readSelectors hothers)
          rwa [List.takeWhile_append_dropWhile] at hspelled
  · intro h
    cases h with
    | marked h =>
        cases s with
        | nil =>
            cases h
            rfl
        | cons c rest =>
            simp only [h.endsNames c rfl, if_true]
            exact readSelectors_of_spelled h _
    | @name name s selectors hname h =>
        obtain ⟨c, rest, hcons, hc⟩ := hname.exists_cons
        simp only [hname.takeWhile_append h.endsNames, hname.dropWhile_append h.endsNames,
          readSelectors_of_spelled h]
        simp only [hcons, List.cons_append, hc]
        rfl

/-! ## Evaluation -/

/-- Selectors are applied to each value on its own. -/
theorem foldl_flatMap_apply (selectors : List JsonSelector) (values : List Json) :
    selectors.foldl (fun values s => values.flatMap s.apply) values =
      values.flatMap (applySelectors selectors) := by
  induction selectors generalizing values with
  | nil => exact (List.flatMap_singleton' values).symm
  | cons s selectors ih =>
      have hcons : applySelectors (s :: selectors) =
          fun v => (s.apply v).flatMap (applySelectors selectors) := by
        funext v
        simp [applySelectors, ih]
      rw [List.foldl_cons, ih, hcons, List.flatMap_assoc]

/-- What joined selectors take is what the second take from everything that the first
take. -/
@[simp] theorem applySelectors_append (selectors others : List JsonSelector) (v : Json) :
    applySelectors (selectors ++ others) v =
      (applySelectors selectors v).flatMap (applySelectors others) := by
  rw [applySelectors, List.foldl_append, foldl_flatMap_apply, applySelectors]

/-- The first selector is applied first. -/
@[simp] theorem applySelectors_cons (s : JsonSelector) (selectors : List JsonSelector) (v : Json) :
    applySelectors (s :: selectors) v = (s.apply v).flatMap (applySelectors selectors) := by
  simp [applySelectors, foldl_flatMap_apply]

/-- A query applies the selectors that its path is read as. -/
theorem queryJson_eq_ok_iff {v : Json} {path : String} {values : List Json} :
    queryJson v path = .ok values ↔
      ∃ selectors, readJsonPath path.toList = .ok selectors ∧
        applySelectors selectors v = values := by
  rw [queryJson]
  cases readJsonPath path.toList with
  | error failure => simp [Except.map]
  | ok selectors => simp [Except.map]

end Folio.Rule
