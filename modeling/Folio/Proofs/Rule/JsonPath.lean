import Folio.Proofs.Json.Reader
import Folio.Proofs.Rule.JsonSyntax

/-!
# Folio.Proofs.Rule.JsonPath

JSON paths with something written behind them.  What is written behind a path
becomes a part of its last name, or makes the path unreadable
(`endsIn_of_readJsonPath`), and a path that ends in a name which no member
has finds nothing (`applySelectors_eq_nil`).
-/

namespace Folio

/-! ## Names of members -/

namespace Json

mutual

/-- The names of the members of a value, at any depth. -/
def memberNames : Json → List String
  | .object members => members.map (·.1) ++ namesInMembers members
  | .array items => namesInItems items
  | _ => []

/-- The names of the members inside the items of an array. -/
def namesInItems : List Json → List String
  | [] => []
  | v :: rest => memberNames v ++ namesInItems rest

/-- The names of the members inside the members of an object. -/
def namesInMembers : List (String × Json) → List String
  | [] => []
  | (_, v) :: rest => memberNames v ++ namesInMembers rest

end

/-- The names in an item are names in the items. -/
theorem memberNames_subset_of_mem_items {items : List Json} {v : Json} (h : v ∈ items) :
    v.memberNames ⊆ namesInItems items := by
  induction items with
  | nil => cases h
  | cons w items ih =>
      rw [namesInItems]
      rcases List.mem_cons.mp h with rfl | h
      · exact List.subset_append_left _ _
      · exact List.Subset.trans (ih h) (List.subset_append_right _ _)

/-- The names in a member are names in the members. -/
theorem memberNames_subset_of_mem_members {members : List (String × Json)} {v : Json}
    (h : v ∈ members.map (·.2)) : v.memberNames ⊆ namesInMembers members := by
  induction members with
  | nil => cases h
  | cons member members ih =>
      obtain ⟨name, w⟩ := member
      rw [namesInMembers]
      rcases List.mem_cons.mp h with rfl | h
      · exact List.subset_append_left _ _
      · exact List.Subset.trans (ih h) (List.subset_append_right _ _)

end Json

namespace Rule

open Folio.Text Json

/-! ## Pages -/

theorem isBlank_of_isSpace {c : Char} (h : isSpace c = true) : isBlank c = true := by
  simp only [isSpace, Bool.or_eq_true, beq_iff_eq] at h
  rcases h with ((rfl | rfl) | rfl) | rfl <;> rfl

/-- The text of an array or an object looks like it. -/
theorem looksLikeJson_of_parse? {content : String} {v : Json} (h : parse? content = some v)
    (hcontainer : v.isContainer = true) : looksLikeJson content = true := by
  obtain ⟨blanks, c, rest, hblanks, hc, hcontent⟩ := exists_opening_of_parse? h hcontainer
  have hnotBlank : ¬isBlank c = true := by
    rcases hc with rfl | rfl <;> decide
  have htrim : trimStart content.toList = c :: rest := by
    rw [trimStart, hcontent,
      List.dropWhile_append_of_pos fun b hb => isBlank_of_isSpace (hblanks b hb),
      List.dropWhile_cons_of_neg hnotBlank]
  have hparse : parse? (String.ofList (c :: rest)) = some v := by
    rw [← parse?_append_blanks hblanks, ← hcontent, String.ofList_toList, h]
  have hopening : (startsWith ['\x7b'] (c :: rest) || startsWith ['['] (c :: rest)) = true := by
    rcases hc with rfl | rfl <;> rfl
  simp only [looksLikeJson, htrim, hparse, hopening, Option.isSome_some, Bool.and_self]

/-! ## What selectors find -/

/-- What is found is the value of a member. -/
theorem mem_map_snd_of_lookup {members : List (String × Json)} {key : String} {w : Json}
    (h : members.lookup key = some w) : w ∈ members.map (·.2) := by
  obtain ⟨before, after, rfl, -⟩ := List.lookup_eq_some_iff.mp h
  simp

/-- A key that is not there finds nothing. -/
theorem lookup_eq_none_of_not_mem {members : List (String × Json)} {key : String}
    (h : key ∉ members.map (·.1)) : members.lookup key = none := by
  rw [List.lookup_eq_none_iff]
  intro member hmember
  rw [bne_iff_ne]
  rintro rfl
  exact h (List.mem_map_of_mem hmember)

/-- What a key matches are values of members. -/
theorem matching_subset (key : String) (members : List (String × Json)) :
    matching key members ⊆ members.map (·.2) := by
  intro w hw
  rw [matching] at hw
  split at hw
  · exact hw
  · exact mem_map_snd_of_lookup (Option.mem_toList.mp hw)

mutual

/-- What descent finds in a value has no names that the value lacks. -/
theorem memberNames_subset_of_mem_descendants (key : String) :
    ∀ (v : Json) {w : Json}, w ∈ descendants key v → w.memberNames ⊆ v.memberNames
  | .object members, w, h => by
      rw [descendants] at h
      rw [memberNames]
      refine List.Subset.trans ?_ (List.subset_append_right _ _)
      rcases List.mem_append.mp h with h | h
      · exact memberNames_subset_of_mem_members (matching_subset key members h)
      · exact memberNames_subset_of_mem_memberDescendants key members h
  | .array items, w, h => by
      rw [descendants] at h
      rw [memberNames]
      rcases List.mem_append.mp h with h | h
      · split at h
        · exact memberNames_subset_of_mem_items h
        · cases h
      · exact memberNames_subset_of_mem_itemDescendants key items h
  | .null, w, h => nomatch h
  | .bool _, w, h => nomatch h
  | .number _, w, h => nomatch h
  | .string _, w, h => nomatch h

/-- A descent into items comes to no other names. -/
theorem memberNames_subset_of_mem_itemDescendants (key : String) :
    ∀ (items : List Json) {w : Json}, w ∈ itemDescendants key items →
      w.memberNames ⊆ namesInItems items
  | [], w, h => nomatch h
  | v :: items, w, h => by
      rw [itemDescendants] at h
      rw [namesInItems]
      rcases List.mem_append.mp h with h | h
      · exact List.Subset.trans (memberNames_subset_of_mem_descendants key v h)
          (List.subset_append_left _ _)
      · exact List.Subset.trans (memberNames_subset_of_mem_itemDescendants key items h)
          (List.subset_append_right _ _)

/-- Nor does one into members. -/
theorem memberNames_subset_of_mem_memberDescendants (key : String) :
    ∀ (members : List (String × Json)) {w : Json}, w ∈ memberDescendants key members →
      w.memberNames ⊆ namesInMembers members
  | [], w, h => nomatch h
  | (_, v) :: members, w, h => by
      rw [memberDescendants] at h
      rw [namesInMembers]
      rcases List.mem_append.mp h with h | h
      · exact List.Subset.trans (memberNames_subset_of_mem_descendants key v h)
          (List.subset_append_left _ _)
      · exact List.Subset.trans (memberNames_subset_of_mem_memberDescendants key members h)
          (List.subset_append_right _ _)

end

mutual

/-- Descent for a key that no member has finds nothing. -/
theorem descendants_eq_nil {key : String} (hall : key ≠ "*") :
    ∀ v : Json, key ∉ v.memberNames → descendants key v = []
  | .object members, h => by
      rw [memberNames, List.mem_append, not_or] at h
      rw [descendants, matching, if_neg hall, lookup_eq_none_of_not_mem h.1,
        memberDescendants_eq_nil hall members h.2]
      rfl
  | .array items, h => by
      rw [memberNames] at h
      rw [descendants, if_neg hall, itemDescendants_eq_nil hall items h]
      rfl
  | .null, _ => rfl
  | .bool _, _ => rfl
  | .number _, _ => rfl
  | .string _, _ => rfl

/-- A descent into items finds nothing under a name that is not there. -/
theorem itemDescendants_eq_nil {key : String} (hall : key ≠ "*") :
    ∀ items : List Json, key ∉ namesInItems items → itemDescendants key items = []
  | [], _ => rfl
  | v :: items, h => by
      rw [namesInItems, List.mem_append, not_or] at h
      rw [itemDescendants, descendants_eq_nil hall v h.1, itemDescendants_eq_nil hall items h.2]
      rfl

/-- Nor does one into members. -/
theorem memberDescendants_eq_nil {key : String} (hall : key ≠ "*") :
    ∀ members : List (String × Json), key ∉ namesInMembers members →
      memberDescendants key members = []
  | [], _ => rfl
  | (_, v) :: members, h => by
      rw [namesInMembers, List.mem_append, not_or] at h
      rw [memberDescendants, descendants_eq_nil hall v h.1,
        memberDescendants_eq_nil hall members h.2]
      rfl

end

/-- The item at a position is one of the items. -/
theorem mem_of_itemAt? {α : Type} {items : List α} {position : Int} {a : α}
    (h : itemAt? items position = some a) : a ∈ items := by
  rw [itemAt?] at h
  split at h
  · exact List.mem_of_getElem? h
  · split at h
    · exact List.mem_of_getElem? h
    · cases h

/-- What a selector finds in a value has no names that the value lacks. -/
theorem memberNames_subset_of_mem_apply {s : JsonSelector} {v w : Json} (h : w ∈ s.apply v) :
    w.memberNames ⊆ v.memberNames := by
  have hobject {members : List (String × Json)} (hw : w ∈ members.map (·.2)) :
      w.memberNames ⊆ (Json.object members).memberNames := by
    rw [memberNames]
    exact List.Subset.trans (memberNames_subset_of_mem_members hw) (List.subset_append_right _ _)
  have harray {items : List Json} (hw : w ∈ items) :
      w.memberNames ⊆ (Json.array items).memberNames := by
    rw [memberNames]
    exact memberNames_subset_of_mem_items hw
  unfold JsonSelector.apply at h
  split at h
  · exact hobject (mem_map_snd_of_lookup (Option.mem_toList.mp h))
  · exact harray (mem_of_itemAt? (Option.mem_toList.mp h))
  · exact harray h
  · exact hobject h
  · exact memberNames_subset_of_mem_descendants _ _ h
  · cases h

/-! ## Paths that end in a name -/

/-- The name that a selector asks for. -/
def JsonSelector.name? : JsonSelector → Option String
  | .key name => some name
  | .descend name => some name
  | _ => none

/-- A text that cannot but be part of a name where it stands behind a path. -/
structure IsNamePart (part : List Char) : Prop where
  ne_nil : part ≠ []
  not_mark : ∀ c ∈ part, endsName c = false ∧ c ≠ ']' ∧ c ≠ '*'

/-- The last selector asks for a name with the given end. -/
inductive EndsIn (part : List Char) : List JsonSelector → Prop
  | last {s : JsonSelector} {name : String} (hname : s.name? = some name)
      (hpart : part <:+ name.toList) : EndsIn part [s]
  | cons (s : JsonSelector) {rest : List JsonSelector} (h : EndsIn part rest) :
      EndsIn part (s :: rest)

section NamePart

variable {part : List Char}

theorem IsNamePart.not_suffix_star (h : IsNamePart part) : ¬part <:+ ['*'] := by
  intro hsuffix
  obtain ⟨c, rest, rfl⟩ := List.exists_cons_of_ne_nil h.ne_nil
  have hc : c ∈ ['*'] := hsuffix.subset List.mem_cons_self
  exact (h.not_mark c List.mem_cons_self).2.2 (List.mem_singleton.mp hc)

/-- A selector for a name that no member has finds nothing. -/
theorem apply_eq_nil_of_name? (hpart : IsNamePart part) {s : JsonSelector} {name : String}
    (hname : s.name? = some name) (hsuffix : part <:+ name.toList) {v : Json}
    (hv : ∀ other ∈ v.memberNames, ¬part <:+ other.toList) : s.apply v = [] := by
  have hmissing : name ∉ v.memberNames := fun hmem => hv name hmem hsuffix
  cases s with
  | key key =>
      obtain rfl : key = name := Option.some.inj hname
      cases v with
      | object members =>
          rw [memberNames, List.mem_append, not_or] at hmissing
          rw [JsonSelector.apply, lookup_eq_none_of_not_mem hmissing.1]
          rfl
      | _ => rfl
  | descend key =>
      obtain rfl : key = name := Option.some.inj hname
      have hstar : key ≠ "*" := by
        rintro rfl
        exact hpart.not_suffix_star hsuffix
      rw [JsonSelector.apply, descendants_eq_nil hstar v hmissing]
  | index position => cases hname
  | all => cases hname

/-- **Names that no member has.**  A path that ends in such a name finds
nothing. -/
theorem applySelectors_eq_nil (hpart : IsNamePart part) {selectors : List JsonSelector}
    (h : EndsIn part selectors) {v : Json}
    (hv : ∀ name ∈ v.memberNames, ¬part <:+ name.toList) : applySelectors selectors v = [] := by
  induction h generalizing v with
  | last hname hsuffix =>
      rw [applySelectors_cons, apply_eq_nil_of_name? hpart hname hsuffix hv]
      rfl
  | cons s _ ih =>
      rw [applySelectors_cons, List.flatMap_eq_nil_iff]
      intro w hw
      exact ih fun name hname => hv name (memberNames_subset_of_mem_apply hw hname)

/-! ## Reading -/

/-- The selector of a name ends in every part that ends the name. -/
theorem endsIn_nameSelector (hpart : IsNamePart part) {name : List Char} (h : part <:+ name) :
    EndsIn part [nameSelector name] := by
  have hne : name ≠ ['*'] := by
    rintro rfl
    exact hpart.not_suffix_star h
  rw [nameSelector, if_neg hne]
  exact .last rfl (by rwa [String.toList_ofList])

/-- A part of a name holds none of the marks that end names. -/
theorem IsNamePart.not_mem (hpart : IsNamePart part) {mark : Char}
    (hmark : endsName mark = true) : mark ∉ part := by
  intro hmem
  rw [(hpart.not_mark mark hmem).1] at hmark
  contradiction

/-- A mark that the joined text begins with is one of the first text. -/
theorem eq_cons_of_append {s after : List Char} {mark : Char} (hmark : mark ∉ part)
    (h : s ++ part = mark :: after) : ∃ rest, s = mark :: rest ∧ after = rest ++ part := by
  cases s with
  | nil =>
      rw [List.nil_append] at h
      exact absurd (h ▸ List.mem_cons_self) hmark
  | cons c s =>
      obtain ⟨rfl, rfl⟩ := List.cons.inj h
      exact ⟨s, rfl, rfl⟩

/-- A name that meets the end of the joined text has all of it. -/
theorem suffix_of_name_append (hpart : IsNamePart part) {name s t : List Char} (ht : EndsNames t)
    (h : name ++ t = s ++ part) : (∃ rest, t = rest ++ part) ∨ t = [] ∧ part <:+ name := by
  rcases List.append_eq_append_iff.mp h with ⟨rest, -, hrest⟩ | ⟨front, hname, hfront⟩
  · exact Or.inl ⟨rest, hrest⟩
  · cases t with
    | nil =>
        rw [List.append_nil] at hfront
        exact Or.inr ⟨rfl, s, by rw [hname, hfront]⟩
    | cons c t =>
        exact absurd (by simp [hfront]) (hpart.not_mem (ht c rfl))

/-- **Behind a path.**  What stands behind selectors is a part of the last name, or
they are none. -/
theorem endsIn_of_spelled (hpart : IsNamePart part) {s : List Char}
    {selectors : List JsonSelector} (h : Spelled (s ++ part) selectors) :
    EndsIn part selectors := by
  generalize hjoined : s ++ part = joined at h
  induction h generalizing s with
  | nil => exact absurd (List.append_eq_nil_iff.mp hjoined).2 hpart.ne_nil
  | descend hname h ih =>
      obtain ⟨front, rfl, hfront⟩ := eq_cons_of_append (hpart.not_mem rfl) hjoined
      obtain ⟨rest, rfl, hrest⟩ := eq_cons_of_append (hpart.not_mem rfl) hfront.symm
      rcases suffix_of_name_append hpart h.endsNames hrest with ⟨more, rfl⟩ | ⟨rfl, hsuffix⟩
      · exact .cons _ (ih rfl)
      · cases h
        exact .last rfl (by rwa [String.toList_ofList])
  | name hname h ih =>
      obtain ⟨rest, rfl, hrest⟩ := eq_cons_of_append (hpart.not_mem rfl) hjoined
      rcases suffix_of_name_append hpart h.endsNames hrest with ⟨more, rfl⟩ | ⟨rfl, hsuffix⟩
      · exact .cons _ (ih rfl)
      · cases h
        exact endsIn_nameSelector hpart hsuffix
  | bracket hinner hselector h ih =>
      have hclosing : ']' ∉ part := fun hmem => (hpart.not_mark ']' hmem).2.1 rfl
      obtain ⟨rest, rfl, hrest⟩ := eq_cons_of_append (hpart.not_mem rfl) hjoined
      rcases List.append_eq_append_iff.mp hrest with ⟨more, -, hmore⟩ | ⟨front, hfront, hclose⟩
      · obtain ⟨more, rfl, rfl⟩ := eq_cons_of_append hclosing hmore.symm
        exact .cons _ (ih rfl)
      · exact absurd (by simp [hclose]) hclosing

/-- The root mark in front of a path is its own. -/
theorem exists_stripPrefix?_append (part : List Char) {s : List Char} (hs : s ≠ []) :
    ∃ rest, (stripPrefix? ['$'] (s ++ part)).getD (s ++ part) = rest ++ part := by
  obtain ⟨c, s, rfl⟩ := List.exists_cons_of_ne_nil hs
  rw [List.cons_append, stripPrefix?]
  split
  · exact ⟨s, rfl⟩
  · exact ⟨c :: s, rfl⟩

/-- **Behind a path.**  What stands behind a path is a part of its last name, or the
path cannot be read. -/
theorem endsIn_of_readJsonPath (hpart : IsNamePart part) {path : List Char}
    {selectors : List JsonSelector} (hne : path ≠ [])
    (htrim : trim (path ++ part) = path ++ part)
    (h : readJsonPath (path ++ part) = .ok selectors) : EndsIn part selectors := by
  obtain ⟨rest, hrest⟩ := exists_stripPrefix?_append part hne
  rw [readJsonPath_eq_ok_iff, belowRoot, htrim, hrest] at h
  generalize hjoined : rest ++ part = joined at h
  cases h with
  | marked h =>
      rw [← hjoined] at h
      exact endsIn_of_spelled hpart h
  | name hname h =>
      rcases suffix_of_name_append hpart h.endsNames hjoined.symm with ⟨more, rfl⟩ | ⟨rfl, hsuffix⟩
      · exact .cons _ (endsIn_of_spelled hpart h)
      · cases h
        exact endsIn_nameSelector hpart hsuffix

end NamePart

end Rule

end Folio
