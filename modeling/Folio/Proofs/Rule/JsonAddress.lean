import Folio.Proofs.Rule.JsonSyntax
import Folio.Proofs.Text.Number
import Folio.Proofs.Text.Quoted

/-!
# Folio.Proofs.Rule.JsonAddress

Addresses in JSON values.  An address leads from a value to at most one value
inside it, by keys of objects and positions of arrays; it is written as a path
with one bracket for each step.  A bracket ends at the first `]`, even within
quotes: so a path finds what is at its address, whatever the value, exactly
when no key of the address has that character and no position needs more than
64 bits (`leads_iff`).
-/

namespace Folio.Rule

open Folio.Text

/-! ## Addresses -/

/-- A step of an address. -/
inductive JsonStep where
  /-- The member of an object. -/
  | member (key : String)
  /-- The item of an array, counted from the end when negative. -/
  | item (position : Int)
deriving DecidableEq, Repr

/-- The item at a position of an array: from the beginning, the first at zero, or from
the end, the last at minus one. -/
def positionIn (items : List Json) : Int → Option Json
  | .ofNat n => items[n]?
  | .negSucc n => items.reverse[n]?

/-- The value at an address. -/
def valueAt? : List JsonStep → Json → Option Json
  | [], v => some v
  | .member key :: rest, .object members => (members.lookup key).bind (valueAt? rest)
  | .item position :: rest, .array items => (positionIn items position).bind (valueAt? rest)
  | _ :: _, _ => none

/-- What a step is written as between brackets. -/
def JsonStep.inside : JsonStep → List Char
  | .member key => '\'' :: (key.toList ++ ['\''])
  | .item position => (toString position).toList

/-- The steps of an address, each in brackets. -/
def brackets (address : List JsonStep) : List Char :=
  address.flatMap fun step => '[' :: (step.inside ++ [']'])

/-- The path that is written for an address. -/
def addressPath (address : List JsonStep) : String := String.ofList ('$' :: brackets address)

/-- The step is read as it is written. -/
def JsonStep.IsReadable : JsonStep → Prop
  | .member key => ']' ∉ key.toList
  | .item position => -(Int.pow 2 63) ≤ position ∧ position ≤ Int.pow 2 63 - 1

/-- The selector that a step stands for. -/
def JsonStep.selector : JsonStep → JsonSelector
  | .member key => .key key
  | .item position => .index position

/-- The path of an address finds the value there, and nothing where the address leads
nowhere. -/
def Leads (address : List JsonStep) : Prop :=
  ∀ v, queryJson v (addressPath address) = .ok (valueAt? address v).toList

/-! ## Evaluation -/

/-- Positions count from either end of the items. -/
theorem itemAt?_eq (items : List Json) (position : Int) :
    itemAt? items position = positionIn items position := by
  cases position with
  | ofNat n => rfl
  | negSucc n =>
      have hback : (-Int.negSucc n).toNat = n + 1 := rfl
      rw [itemAt?, if_neg (by omega), hback, positionIn]
      split
      · next hle =>
        rw [List.getElem?_reverse hle]
        congr 1
        omega
      · next hlt =>
        rw [List.getElem?_eq_none]
        rw [List.length_reverse]
        omega

/-- The selectors of an address take the value there. -/
theorem applySelectors_address (address : List JsonStep) (v : Json) :
    applySelectors (address.map JsonStep.selector) v = (valueAt? address v).toList := by
  induction address generalizing v with
  | nil => rfl
  | cons step rest ih =>
      have hbind (found : Option Json) : found.toList.flatMap
          (applySelectors (rest.map JsonStep.selector)) = (found.bind (valueAt? rest)).toList := by
        cases found with
        | none => rfl
        | some w => rw [Option.toList_some, List.flatMap_singleton, ih, Option.bind_some]
      rw [List.map_cons, applySelectors_cons]
      cases step with
      | member key =>
          cases v with
          | object members => exact hbind _
          | _ => rfl
      | item position =>
          cases v with
          | array items =>
              have happly : (JsonStep.item position).selector.apply (.array items) =
                  (positionIn items position).toList := by
                rw [← itemAt?_eq]
                rfl
              rw [happly]
              exact hbind _
          | _ => rfl

/-! ## Reading -/

/-- Each step of an address has its brackets. -/
@[simp] theorem brackets_cons (step : JsonStep) (rest : List JsonStep) :
    brackets (step :: rest) = '[' :: (step.inside ++ ']' :: brackets rest) := by
  simp [brackets]

/-- Addresses are written one behind the other. -/
@[simp] theorem brackets_append (address others : List JsonStep) :
    brackets (address ++ others) = brackets address ++ brackets others :=
  List.flatMap_append

/-- A bracket ends a name. -/
theorem endsNames_brackets (address : List JsonStep) : EndsNames (brackets address) := by
  cases address with
  | nil => exact fun c hc => nomatch hc
  | cons step rest =>
      rw [brackets_cons]
      exact fun c hc => Option.some.inj hc ▸ rfl

/-- An address has no blanks at its edges. -/
@[simp] theorem trim_rooted_brackets (address : List JsonStep) :
    trim ('$' :: brackets address) = '$' :: brackets address := by
  rcases List.eq_nil_or_concat address with rfl | ⟨front, step, rfl⟩
  · rfl
  · have hlast : brackets (front ++ [step]) =
        brackets front ++ '[' :: step.inside ++ [']'] := by
      rw [brackets_append, brackets_cons, List.append_assoc]
      rfl
    rw [List.concat_eq_append, hlast]
    exact trim_cons_append_singleton rfl rfl _

/-- The path of an address is read as the selectors that its brackets spell. -/
theorem readJsonPath_addressPath_iff {address : List JsonStep} {selectors : List JsonSelector} :
    readJsonPath (addressPath address).toList = .ok selectors ↔
      Spelled (brackets address) selectors := by
  rw [addressPath, String.toList_ofList, readJsonPath_eq_ok_iff,
    belowRoot_rooted (trim_rooted_brackets address)]
  exact ⟨fun h => h.spelled (endsNames_brackets address), .marked⟩

/-- A text that begins with a single quotation mark is read as a key or not at all, and
the marks do not belong to the key. -/
theorem exists_key_of_bracketSelector {s : List Char} {selector : JsonSelector}
    (h : bracketSelector [] ('\'' :: s) = .ok selector) :
    ∃ key, s = key ++ ['\''] ∧ selector = .key (String.ofList key) := by
  have hall : '\'' :: s ≠ ['*'] := fun h => by cases h
  have hdouble : quotedBy? '"' ('\'' :: s) = none := quotedBy?_eq_none (by decide) s
  rw [bracketSelector, if_neg hall, hdouble,
    integerWithin?_eq_none (by decide) (by decide) (by decide)] at h
  cases hquoted : quotedBy? '\'' ('\'' :: s) with
  | some key =>
      rw [hquoted] at h
      cases h
      exact ⟨key, (List.cons.inj (quotedBy?_eq_some_iff.mp hquoted)).2, rfl⟩
  | none =>
      rw [hquoted] at h
      cases h

/-- A quoted key is read as that key. -/
@[simp] theorem bracketSelector_key (key : String) :
    bracketSelector [] (JsonStep.member key).inside = .ok (.key key) := by
  have hall : '\'' :: (key.toList ++ ['\'']) ≠ ['*'] := fun h => by cases h
  rw [JsonStep.inside, bracketSelector, if_neg hall, quotedBy?_eq_some_iff.mpr rfl]
  dsimp only
  rw [String.ofList_toList]

/-- A number is read as a position within 64 bits. -/
theorem bracketSelector_position (position : Int) :
    bracketSelector [] (JsonStep.item position).inside =
      if -(Int.pow 2 63) ≤ position ∧ position ≤ Int.pow 2 63 - 1 then .ok (.index position)
      else .error (.unsupportedSelector (toString position) "") := by
  obtain ⟨c, rest, hcons, hc⟩ := exists_toString_int_eq_cons position
  have hother (other : Char) (hsign : other ≠ '-') (hdigit : isAsciiDigit other = false) :
      c ≠ other := by
    rintro rfl
    rcases hc with hc | hc
    · exact hsign hc
    · rw [hdigit] at hc
      contradiction
  have hall : (toString position).toList ≠ ['*'] := by
    rw [hcons]
    exact fun h => hother '*' (by decide) rfl (List.cons.inj h).1
  have hunquoted (quote : Char) (hquote : c ≠ quote) :
      quotedBy? quote (toString position).toList = none := by
    rw [hcons]
    exact quotedBy?_eq_none hquote rest
  rw [JsonStep.inside, bracketSelector, if_neg hall, hunquoted '\'' (hother _ (by decide) rfl),
    hunquoted '"' (hother _ (by decide) rfl), integerWithin?_toString]
  dsimp only
  rw [String.ofList_toList]
  by_cases hwithin : -(Int.pow 2 63) ≤ position ∧ position ≤ Int.pow 2 63 - 1
  · rw [if_pos hwithin, if_pos hwithin]
  · rw [if_neg hwithin, if_neg hwithin]

/-- What is in the brackets of a step is read as its selector. -/
theorem bracketSelector_inside {step : JsonStep} (h : step.IsReadable) :
    bracketSelector [] step.inside = .ok step.selector := by
  cases step with
  | member key => exact bracketSelector_key key
  | item position => exact (bracketSelector_position position).trans (if_pos h)

@[simp] theorem trim_inside (step : JsonStep) : trim step.inside = step.inside := by
  cases step with
  | member key => exact trim_cons_append_singleton rfl rfl key.toList
  | item position => exact trim_of_forall fun c hc => isBlank_eq_false_of_mem_toString_int hc

/-- The bracket of a step ends with the step. -/
theorem not_mem_inside {step : JsonStep} (h : step.IsReadable) : ']' ∉ step.inside := by
  cases step with
  | member key =>
      intro hmem
      rcases List.mem_cons.mp hmem with hmark | hmem
      · cases hmark
      · rcases List.mem_append.mp hmem with hkey | hmark
        · exact h hkey
        · cases List.mem_singleton.mp hmark
  | item position => exact not_mem_toString_int (by decide) rfl position

theorem spelled_brackets {address : List JsonStep} (h : ∀ step ∈ address, step.IsReadable) :
    Spelled (brackets address) (address.map JsonStep.selector) := by
  induction address with
  | nil => exact .nil
  | cons step rest ih =>
      obtain ⟨hstep, hrest⟩ := List.forall_mem_cons.mp h
      rw [brackets_cons, List.map_cons]
      refine .bracket (not_mem_inside hstep) ?_ (ih hrest)
      rw [trim_inside]
      exact bracketSelector_inside hstep

/-- What a bracket spells is told by what stands before the first `]`. -/
theorem Spelled.bracket_inv {inside rest : List Char} {selectors : List JsonSelector}
    (h : Spelled ('[' :: (inside ++ ']' :: rest)) selectors) (hinside : ']' ∉ inside) :
    ∃ selector others, selectors = selector :: others ∧
      bracketSelector [] (trim inside) = .ok selector ∧ Spelled rest others := by
  generalize hs : '[' :: (inside ++ ']' :: rest) = s at h
  cases h with
  | nil => cases hs
  | descend => cases (List.cons.inj hs).1
  | name => cases (List.cons.inj hs).1
  | bracket hinner hselector hrest =>
      obtain ⟨rfl, rfl⟩ := eq_of_append_cons hinside hinner (List.cons.inj hs).2
      exact ⟨_, _, rfl, hselector, hrest⟩

/-! ## Keys that are cut -/

/-- A value that has something at an address, and nothing beside it. -/
def valueWith : List JsonStep → Json
  | [] => .null
  | .member key :: rest => .object [(key, valueWith rest)]
  | .item position :: rest => .array (List.replicate (position.natAbs + 1) (valueWith rest))

theorem positionIn_replicate (position : Int) (v : Json) :
    positionIn (List.replicate (position.natAbs + 1) v) position = some v := by
  cases position with
  | ofNat n => exact List.getElem?_replicate_of_lt (Nat.lt_succ_self n)
  | negSucc n =>
      rw [positionIn, List.reverse_replicate]
      exact List.getElem?_replicate_of_lt (Nat.lt_succ_of_lt (Nat.lt_succ_self n))

theorem valueAt?_valueWith (address : List JsonStep) :
    valueAt? address (valueWith address) = some .null := by
  induction address with
  | nil => rfl
  | cons step rest ih =>
      cases step with
      | member key => simp [valueWith, valueAt?, ih]
      | item position => rw [valueWith, valueAt?, positionIn_replicate, Option.bind_some, ih]

theorem mem_apply_valueWith {step : JsonStep} {rest : List JsonStep} {v : Json}
    (h : v ∈ step.selector.apply (valueWith (step :: rest))) : v = valueWith rest := by
  cases step with
  | member key => simpa [JsonStep.selector, JsonSelector.apply, valueWith] using h
  | item position =>
      have hitem : v ∈ (itemAt? (List.replicate (position.natAbs + 1) (valueWith rest))
          position).toList := h
      rw [itemAt?_eq, positionIn_replicate] at hitem
      simpa using hitem

/-- A key is cut at its first `]`, so that a shorter one is read or none. -/
theorem exists_shorter_key {key : String} {rest : List Char} {selectors : List JsonSelector}
    (hkey : ']' ∈ key.toList)
    (h : Spelled ('[' :: ((JsonStep.member key).inside ++ ']' :: rest)) selectors) :
    ∃ other others, selectors = .key other :: others ∧ other ≠ key := by
  obtain ⟨before, after, hcut, hbefore⟩ := List.eq_append_cons_of_mem hkey
  have hinside : (JsonStep.member key).inside ++ ']' :: rest =
      '\'' :: before ++ ']' :: (after ++ '\'' :: ']' :: rest) := by
    simp [JsonStep.inside, hcut]
  have hmark : ']' ∉ '\'' :: before := fun hmem => by
    rcases List.mem_cons.mp hmem with hc | hmem
    · cases hc
    · exact hbefore hmem
  rw [hinside] at h
  obtain ⟨selector, others, rfl, hselector, -⟩ := h.bracket_inv hmark
  obtain ⟨s, hs, hlength⟩ : ∃ s, trim ('\'' :: before) = '\'' :: s ∧ s.length ≤ before.length :=
    exists_trim_cons rfl before
  rw [hs] at hselector
  obtain ⟨other, rfl, rfl⟩ := exists_key_of_bracketSelector hselector
  refine ⟨String.ofList other, others, rfl, fun hsame => ?_⟩
  have hequal : other.length = key.toList.length := by rw [← hsame, String.toList_ofList]
  rw [hcut] at hequal
  simp only [List.length_append, List.length_cons, List.length_nil] at hequal hlength
  omega

/-- An address that is not read as it is written misses the value there. -/
theorem applySelectors_valueWith {address : List JsonStep} {selectors : List JsonSelector}
    (h : Spelled (brackets address) selectors)
    (hunreadable : ¬∀ step ∈ address, step.IsReadable) :
    applySelectors selectors (valueWith address) = [] := by
  induction address generalizing selectors with
  | nil => exact absurd (fun _ hmem => nomatch hmem) hunreadable
  | cons step rest ih =>
      rw [brackets_cons] at h
      by_cases hstep : step.IsReadable
      · have hrest : ¬∀ step ∈ rest, step.IsReadable := fun hrest =>
          hunreadable (List.forall_mem_cons.mpr ⟨hstep, hrest⟩)
        obtain ⟨selector, others, rfl, hselector, hothers⟩ := h.bracket_inv (not_mem_inside hstep)
        rw [trim_inside, bracketSelector_inside hstep] at hselector
        obtain rfl : step.selector = selector := Except.ok.inj hselector
        rw [applySelectors_cons, List.flatMap_eq_nil_iff]
        intro v hv
        obtain rfl : v = valueWith rest := mem_apply_valueWith hv
        exact ih hothers hrest
      · cases step with
        | member key =>
            obtain ⟨other, others, rfl, hother⟩ := exists_shorter_key (not_not.mp hstep) h
            have hlookup : (JsonSelector.key other).apply (valueWith (.member key :: rest)) =
                [] := by
              simp [JsonSelector.apply, valueWith, hother]
            rw [applySelectors_cons, hlookup, List.flatMap_nil]
        | item position =>
            have hmark : ']' ∉ (JsonStep.item position).inside :=
              not_mem_toString_int (by decide) rfl position
            obtain ⟨selector, others, -, hselector, -⟩ := h.bracket_inv hmark
            rw [trim_inside] at hselector
            cases hselector.symm.trans ((bracketSelector_position position).trans (if_neg hstep))

/-! ## Addresses and paths -/

/-- An address with a step that is not read leads astray in the value that has it. -/
theorem isReadable_of_leads {address : List JsonStep} (h : Leads address) :
    ∀ step ∈ address, step.IsReadable := by
  by_contra hunreadable
  obtain ⟨selectors, hread, hvalues⟩ := queryJson_eq_ok_iff.mp (h (valueWith address))
  rw [applySelectors_valueWith (readJsonPath_addressPath_iff.mp hread) hunreadable,
    valueAt?_valueWith] at hvalues
  cases hvalues

/-- **Addresses.**  The path that is written for an address finds exactly the value there, in
every value, and nothing where the address leads nowhere, if and only if no key of the
address has a closing bracket and every position fits 64 bits. -/
theorem leads_iff (address : List JsonStep) :
    Leads address ↔ ∀ step ∈ address, step.IsReadable := by
  constructor
  · exact isReadable_of_leads
  · intro h v
    exact queryJson_eq_ok_iff.mpr ⟨address.map JsonStep.selector,
      readJsonPath_addressPath_iff.mpr (spelled_brackets h), applySelectors_address address v⟩

/-- A key with a closing bracket is not found. -/
theorem not_leads_bracket : ¬Leads [.member "a]b"] := fun h =>
  isReadable_of_leads h (.member "a]b") List.mem_cons_self (by decide)

end Folio.Rule
