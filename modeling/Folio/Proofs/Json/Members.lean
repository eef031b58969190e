import Folio.Proofs.Json.Reader
import Mathlib.Data.List.Nodup

/-!
# Folio.Proofs.Json.Members

The members of an object that has been read.  Setting a key keeps the members in
ascending order, each key once (`ascending_insert`), and so it is with every
object that a text holds (`ascending_of_value?`), at every depth of it
(`hasDistinctKeys_of_parse?`).
-/

namespace Folio.Json

/-- The keys ascend, so that none is there twice. -/
def Ascending (members : List (String × Json)) : Prop :=
  members.Pairwise fun m n => m.1 < n.1

variable {key : String} {value : Json} {members : List (String × Json)}

/-- The member that is set is the only one that may be new. -/
theorem eq_or_mem_of_mem_insert {m : String × Json} (h : m ∈ insert key value members) :
    m = (key, value) ∨ m ∈ members := by
  induction members with
  | nil =>
      rw [insert, List.mem_singleton] at h
      exact Or.inl h
  | cons n members ih =>
      rw [insert] at h
      split at h
      · rcases List.mem_cons.mp h with rfl | h
        · exact Or.inl rfl
        · exact Or.inr h
      · split at h
        · rcases List.mem_cons.mp h with rfl | h
          · exact Or.inl rfl
          · exact Or.inr (List.mem_cons_of_mem n h)
        · rcases List.mem_cons.mp h with rfl | h
          · exact Or.inr List.mem_cons_self
          · exact (ih h).imp_right (List.mem_cons_of_mem n)

/-- **Setting a key.** -/
theorem ascending_insert (h : Ascending members) : Ascending (insert key value members) := by
  induction members with
  | nil => exact List.pairwise_singleton _ _
  | cons n members ih =>
      obtain ⟨hn, hmembers⟩ := List.pairwise_cons.mp h
      rw [insert]
      split
      · next hless =>
        refine List.pairwise_cons.mpr ⟨?_, h⟩
        intro m hm
        rcases List.mem_cons.mp hm with rfl | hm
        · exact hless
        · exact String.lt_trans hless (hn m hm)
      · next hnot =>
        split
        · next heq =>
          refine List.pairwise_cons.mpr ⟨?_, hmembers⟩
          rw [heq]
          exact hn
        · next hne =>
          have hgreater : n.1 < key := by
            refine String.not_le.mp fun hle => hne ?_
            exact String.le_antisymm hle (String.not_lt.mp hnot)
          refine List.pairwise_cons.mpr ⟨?_, ih hmembers⟩
          intro m hm
          rcases eq_or_mem_of_mem_insert hm with rfl | hm
          · exact hgreater
          · exact hn m hm

theorem mem_of_mem_sortMembers {m : String × Json} (h : m ∈ sortMembers members) : m ∈ members := by
  have hfold : ∀ sorted, m ∈ members.foldl
      (fun sorted member => insert member.1 member.2 sorted) sorted → m ∈ members ∨ m ∈ sorted := by
    clear h
    induction members with
    | nil => exact fun _ h => Or.inr h
    | cons member members ih =>
        intro sorted h
        rcases ih _ h with h | h
        · exact Or.inl (List.mem_cons_of_mem member h)
        · rcases eq_or_mem_of_mem_insert h with rfl | h
          · exact Or.inl List.mem_cons_self
          · exact Or.inr h
  exact (hfold [] h).resolve_right List.not_mem_nil

theorem ascending_sortMembers (members : List (String × Json)) :
    Ascending (sortMembers members) := by
  have hfold : ∀ sorted, Ascending sorted → Ascending
      (members.foldl (fun sorted member => insert member.1 member.2 sorted) sorted) := by
    induction members with
    | nil => exact fun _ h => h
    | cons member members ih => exact fun _ h => ih _ (ascending_insert h)
  exact hfold [] List.Pairwise.nil

/-- **Members.**  The members of an object that was read ascend. -/
theorem ascending_of_value? {form : Form} {depth : Nat} {v : Json}
    (h : form.value? depth = some v) (hmembers : v.members? = some members) :
    Ascending members := by
  cases form with
  | object forms =>
      rw [Form.value?] at h
      split at h
      · contradiction
      · obtain ⟨written, -, rfl⟩ := Option.map_eq_some_iff.mp h
        obtain rfl := Option.some.inj hmembers
        exact ascending_sortMembers written
  | null => cases h; cases hmembers
  | bool b => cases h; cases hmembers
  | number n =>
      rw [Form.value?] at h
      obtain ⟨number, -, rfl⟩ := Option.map_eq_some_iff.mp h
      cases hmembers
  | string s =>
      rw [Form.value?] at h
      obtain ⟨text, -, rfl⟩ := Option.map_eq_some_iff.mp h
      cases hmembers
  | array items =>
      rw [Form.value?] at h
      split at h
      · contradiction
      · obtain ⟨values, -, rfl⟩ := Option.map_eq_some_iff.mp h
        cases hmembers

theorem ascending_of_parse? {text : String} (h : (parse? text).bind members? = some members) :
    Ascending members := by
  obtain ⟨v, hv, hmembers⟩ := Option.bind_eq_some_iff.mp h
  obtain ⟨form, -, hvalue⟩ := Option.bind_eq_some_iff.mp hv
  exact ascending_of_value? hvalue hmembers

/-! ## At every depth -/

/-- No object in the value, at any depth, has a key twice. -/
inductive HasDistinctKeys : Json → Prop
  | scalar {v : Json} (h : v.isContainer = false) : HasDistinctKeys v
  | array {items : List Json} (h : ∀ v ∈ items, HasDistinctKeys v) : HasDistinctKeys (.array items)
  | object {members : List (String × Json)} (hkeys : (members.map (·.1)).Nodup)
      (h : ∀ m ∈ members, HasDistinctKeys m.2) : HasDistinctKeys (.object members)

theorem Ascending.nodup_keys (h : Ascending members) : (members.map (·.1)).Nodup := by
  refine List.pairwise_map.mpr (h.imp ?_)
  intro m n hless heq
  rw [heq] at hless
  exact String.lt_irrefl n.1 hless

mutual

theorem hasDistinctKeys_of_value? :
    ∀ (form : Form) {depth : Nat} {v : Json}, form.value? depth = some v → v.HasDistinctKeys
  | .null, _, _, h => by
      cases h
      exact .scalar rfl
  | .bool _, _, _, h => by
      cases h
      exact .scalar rfl
  | .number _, _, _, h => by
      obtain ⟨_, -, rfl⟩ := Option.map_eq_some_iff.mp h
      exact .scalar rfl
  | .string _, _, _, h => by
      obtain ⟨_, -, rfl⟩ := Option.map_eq_some_iff.mp h
      exact .scalar rfl
  | .array forms, depth, v, h => by
      rw [Form.value?] at h
      split at h
      · contradiction
      · obtain ⟨items, hitems, rfl⟩ := Option.map_eq_some_iff.mp h
        exact .array (hasDistinctKeys_of_values? forms hitems)
  | .object forms, depth, v, h => by
      rw [Form.value?] at h
      split at h
      · contradiction
      · obtain ⟨written, hwritten, rfl⟩ := Option.map_eq_some_iff.mp h
        exact .object (ascending_sortMembers written).nodup_keys fun m hm =>
          hasDistinctKeys_of_memberValues? forms hwritten m (mem_of_mem_sortMembers hm)

theorem hasDistinctKeys_of_values? :
    ∀ (forms : List Form) {depth : Nat} {items : List Json},
      Form.values? depth forms = some items → ∀ v ∈ items, v.HasDistinctKeys
  | [], _, _, h => by
      cases h
      exact fun _ hmem => nomatch hmem
  | form :: forms, depth, items, h => by
      simp only [Form.values?, Option.bind_eq_bind, Option.bind_eq_some_iff,
        Option.some.injEq] at h
      obtain ⟨v, hv, items, hitems, rfl⟩ := h
      exact List.forall_mem_cons.mpr
        ⟨hasDistinctKeys_of_value? form hv, hasDistinctKeys_of_values? forms hitems⟩

theorem hasDistinctKeys_of_memberValues? :
    ∀ (forms : List (Option String × Form)) {depth : Nat} {members : List (String × Json)},
      Form.memberValues? depth forms = some members → ∀ m ∈ members, m.2.HasDistinctKeys
  | [], _, _, h => by
      cases h
      exact fun _ hmem => nomatch hmem
  | (key, form) :: forms, depth, members, h => by
      simp only [Form.memberValues?, Option.bind_eq_bind, Option.bind_eq_some_iff,
        Option.some.injEq] at h
      obtain ⟨k, -, v, hv, members, hmembers, rfl⟩ := h
      exact List.forall_mem_cons.mpr
        ⟨hasDistinctKeys_of_value? form hv, hasDistinctKeys_of_memberValues? forms hmembers⟩

end

/-- **Keys.**  A value that was read has no key twice in one object. -/
theorem hasDistinctKeys_of_parse? {text : String} {v : Json} (h : parse? text = some v) :
    v.HasDistinctKeys := by
  obtain ⟨form, -, hvalue⟩ := Option.bind_eq_some_iff.mp h
  exact hasDistinctKeys_of_value? form hvalue

end Folio.Json
