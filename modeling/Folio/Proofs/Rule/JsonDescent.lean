import Folio.Proofs.Json.Members
import Folio.Proofs.Rule.JsonAddress

/-!
# Folio.Proofs.Rule.JsonDescent

Descent in JSON values.  Descent for a key lists the values at all locations whose
last step is the member of that key, each location once, and what is at a location
before what is inside it; descent for `*` does so for all locations but that of the
whole (`queryJson_descent`).

The locations that descent goes to are listed beside the values that it takes
(`descentLocations`).  Both lists are those one step away, followed by those of each
part (`descendants_eq`, `descentLocations_eq`), and what there is to say of them is
carried from the parts to the whole (`induction_parts`).
-/

namespace Folio.Rule

open Folio.Text Json

/-! ## Locations -/

/-- The step does not count from the end. -/
def JsonStep.IsForward : JsonStep → Prop
  | .member _ => True
  | .item position => 0 ≤ position

/-- Something is at the address, and no step of it counts from the end: what is inside a
value has one location there, and may have many addresses. -/
structure IsLocation (v : Json) (address : List JsonStep) : Prop where
  isSome : (valueAt? address v).isSome = true
  isForward : ∀ step ∈ address, step.IsForward

/-- The values are those at the locations of `v` that are sought, each location once, and
what is at a location stands before what is inside it. -/
def ListsLocations (v : Json) (sought : List JsonStep → Prop) (values : List Json) : Prop :=
  ∃ locations : List (List JsonStep),
    (∀ address, address ∈ locations ↔ IsLocation v address ∧ sought address) ∧
      locations.Nodup ∧
      (locations.Pairwise fun earlier later => ¬later <+: earlier) ∧
      locations.map (valueAt? · v) = values.map some

/-! ## Parts -/

/-- The values directly inside a value, with the steps that lead to them. -/
def parts : Json → List (JsonStep × Json)
  | .object members => members.map fun m => (.member m.1, m.2)
  | .array items => items.zipIdx.map fun p => (.item p.2, p.1)
  | _ => []

variable {key : String} {v w : Json} {step : JsonStep} {address rest : List JsonStep}
  {members : List (String × Json)}

/-- The parts of an object are its members. -/
@[simp] theorem mem_parts_object_iff :
    (step, w) ∈ parts (.object members) ↔ ∃ key, step = .member key ∧ (key, w) ∈ members := by
  simp only [parts, List.mem_map, Prod.mk.injEq, Prod.exists]
  constructor
  · rintro ⟨key, member, hmem, rfl, rfl⟩
    exact ⟨key, rfl, hmem⟩
  · rintro ⟨key, rfl, hmem⟩
    exact ⟨key, w, hmem, rfl, rfl⟩

/-- The parts of an array are its items. -/
@[simp] theorem mem_parts_array_iff {items : List Json} :
    (step, w) ∈ parts (.array items) ↔ ∃ n : Nat, step = .item n ∧ items[n]? = some w := by
  simp only [parts, List.mem_map, Prod.mk.injEq, Prod.exists, List.mem_zipIdx_iff_getElem?]
  constructor
  · rintro ⟨item, n, hget, rfl, rfl⟩
    exact ⟨n, rfl, hget⟩
  · rintro ⟨n, rfl, hget⟩
    exact ⟨w, n, hget, rfl, rfl⟩

/-- What is no container has no parts. -/
theorem parts_eq_nil (h : v.isContainer = false) : parts v = [] := by
  cases v with
  | array items => cases h
  | object members => cases h
  | _ => rfl

/-- Where no key stands twice, every member is found by its key. -/
theorem lookup_eq_some_of_mem (hkeys : (members.map (·.1)).Nodup) (h : (key, w) ∈ members) :
    members.lookup key = some w := by
  induction members with
  | nil => cases h
  | cons m members ih =>
      obtain ⟨hm, hmembers⟩ := List.nodup_cons.mp hkeys
      rcases List.mem_cons.mp h with rfl | h
      · exact List.lookup_cons_self
      · have hne : (key == m.1) = false := by
          rw [beq_eq_false_iff_ne]
          rintro rfl
          exact hm (List.mem_map.mpr ⟨_, h, rfl⟩)
        rw [List.lookup_cons, hne]
        exact ih hmembers h

/-- What is found is a member. -/
theorem mem_of_lookup_eq_some (h : members.lookup key = some w) : (key, w) ∈ members := by
  obtain ⟨front, back, rfl, -⟩ := List.lookup_eq_some_iff.mp h
  exact List.mem_append_right front List.mem_cons_self

/-- A step into a value leads to its part. -/
theorem valueAt?_of_mem_parts (hv : v.HasDistinctKeys) (h : (step, w) ∈ parts v)
    (rest : List JsonStep) : valueAt? (step :: rest) v = valueAt? rest w := by
  cases v with
  | object members =>
      obtain ⟨key, rfl, hmem⟩ := mem_parts_object_iff.mp h
      have hkeys : (members.map (·.1)).Nodup := by
        cases hv with
        | scalar hscalar => cases hscalar
        | object hkeys _ => exact hkeys
      rw [valueAt?, lookup_eq_some_of_mem hkeys hmem, Option.bind_some]
  | array items =>
      obtain ⟨n, rfl, hget⟩ := mem_parts_array_iff.mp h
      have hposition : positionIn items n = some w := hget
      rw [valueAt?, hposition, Option.bind_some]
  | _ => cases h

/-- A step is forward exactly where it leads to a part. -/
theorem exists_mem_parts (hstep : step.IsForward)
    (h : (valueAt? (step :: rest) v).isSome = true) :
    ∃ w, (step, w) ∈ parts v ∧ (valueAt? rest w).isSome = true := by
  obtain ⟨found, hfound⟩ := Option.isSome_iff_exists.mp h
  cases step with
  | member key =>
      cases v with
      | object members =>
          obtain ⟨w, hlookup, hrest⟩ := Option.bind_eq_some_iff.mp hfound
          exact ⟨w, mem_parts_object_iff.mpr ⟨key, rfl, mem_of_lookup_eq_some hlookup⟩,
            by rw [hrest, Option.isSome_some]⟩
      | _ => cases hfound
  | item position =>
      cases v with
      | array items =>
          obtain ⟨w, hposition, hrest⟩ := Option.bind_eq_some_iff.mp hfound
          obtain ⟨n, rfl⟩ := Int.eq_ofNat_of_zero_le hstep
          exact ⟨w, mem_parts_array_iff.mpr ⟨n, rfl, hposition⟩,
            by rw [hrest, Option.isSome_some]⟩
      | _ => cases hfound

/-- Positions of parts are counted from the front. -/
theorem isForward_of_mem_parts (h : (step, w) ∈ parts v) : step.IsForward := by
  cases v with
  | object members =>
      obtain ⟨key, rfl, -⟩ := mem_parts_object_iff.mp h
      trivial
  | array items =>
      obtain ⟨n, rfl, -⟩ := mem_parts_array_iff.mp h
      exact Int.natCast_nonneg n
  | _ => cases h

/-- A value is where no step leads away from it. -/
@[simp] theorem isLocation_nil (v : Json) : IsLocation v [] := ⟨rfl, fun _ hmem => nomatch hmem⟩

/-- A location is that of the whole, or a location in a part behind the step to it. -/
theorem isLocation_cons_iff (hv : v.HasDistinctKeys) :
    IsLocation v (step :: rest) ↔ ∃ w, (step, w) ∈ parts v ∧ IsLocation w rest := by
  constructor
  · rintro ⟨hsome, hforward⟩
    obtain ⟨hstep, hrest⟩ := List.forall_mem_cons.mp hforward
    obtain ⟨w, hmem, hsome⟩ := exists_mem_parts hstep hsome
    exact ⟨w, hmem, hsome, hrest⟩
  · rintro ⟨w, hmem, hsome, hforward⟩
    refine ⟨?_, List.forall_mem_cons.mpr ⟨isForward_of_mem_parts hmem, hforward⟩⟩
    rw [valueAt?_of_mem_parts hv hmem, hsome]

/-- No step leads to two parts. -/
theorem nodup_steps (hv : v.HasDistinctKeys) : ((parts v).map (·.1)).Nodup := by
  cases v with
  | object members =>
      cases hv with
      | scalar hscalar => cases hscalar
      | object hkeys _ =>
          have hsteps : (parts (.object members)).map (·.1) =
              (members.map (·.1)).map JsonStep.member := by
            simp [parts]
          rw [hsteps]
          exact hkeys.map fun _ _ h => JsonStep.member.inj h
  | array items =>
      have hsteps : (parts (.array items)).map (·.1) =
          (items.zipIdx.map (·.2)).map fun n : Nat => JsonStep.item n := by
        rw [parts, List.map_map, List.map_map]
        rfl
      rw [hsteps, List.zipIdx_map_snd]
      exact List.Nodup.map (fun _ _ h => Int.ofNat.inj (JsonStep.item.inj h)) List.nodup_range'
  | _ => exact List.nodup_nil

/-- Parts have no key twice either. -/
theorem hasDistinctKeys_of_mem_parts (hv : v.HasDistinctKeys) (h : (step, w) ∈ parts v) :
    w.HasDistinctKeys := by
  cases hv with
  | scalar hscalar =>
      rw [parts_eq_nil hscalar] at h
      cases h
  | array hitems =>
      obtain ⟨n, -, hget⟩ := mem_parts_array_iff.mp h
      exact hitems w (List.mem_of_getElem? hget)
  | object _ hmembers =>
      obtain ⟨key, -, hmem⟩ := mem_parts_object_iff.mp h
      exact hmembers _ hmem

/-- What holds for a value when it holds for its parts holds for all values. -/
theorem induction_parts {motive : (v : Json) → v.HasDistinctKeys → Prop}
    (step : ∀ (v : Json) (hv : v.HasDistinctKeys),
      (∀ p (hp : p ∈ parts v), motive p.2 (hasDistinctKeys_of_mem_parts hv hp)) → motive v hv)
    {v : Json} (hv : v.HasDistinctKeys) : motive v hv := by
  induction hv with
  | @scalar v hscalar =>
      refine step v (.scalar hscalar) fun p hp => ?_
      rw [parts_eq_nil hscalar] at hp
      cases hp
  | array hitems ih =>
      refine step _ (.array hitems) fun p hp => ?_
      obtain ⟨n, -, hget⟩ := mem_parts_array_iff.mp hp
      exact ih p.2 (List.mem_of_getElem? hget)
  | object hkeys hmembers ih =>
      refine step _ (.object hkeys hmembers) fun p hp => ?_
      obtain ⟨key, -, hmem⟩ := mem_parts_object_iff.mp hp
      exact ih _ hmem

/-! ## What descent takes -/

/-- Descent for the key takes what the step leads to. -/
def JsonStep.isTaken (key : String) : JsonStep → Bool
  | .member name => key == "*" || name == key
  | .item _ => key == "*"

/-- The parts that descent takes. -/
def takenParts (key : String) (v : Json) : List (JsonStep × Json) :=
  (parts v).filter fun p => p.1.isTaken key

theorem lookup_toList_eq (hkeys : (members.map (·.1)).Nodup) :
    (members.lookup key).toList = (members.filter fun m => m.1 == key).map (·.2) := by
  induction members with
  | nil => rfl
  | cons m members ih =>
      obtain ⟨hm, hmembers⟩ := List.nodup_cons.mp hkeys
      by_cases hkey : m.1 = key
      · subst hkey
        have hothers : (members.filter fun n => n.1 == m.1) = [] := by
          refine List.filter_eq_nil_iff.mpr fun n hn hsame => hm ?_
          exact List.mem_map.mpr ⟨n, hn, eq_of_beq hsame⟩
        have hself : ((m :: members).filter fun n => n.1 == m.1) =
            m :: members.filter fun n => n.1 == m.1 :=
          List.filter_cons_of_pos (beq_self_eq_true m.1)
        rw [List.lookup_cons_self, hself, hothers]
        rfl
      · have hlookup : (key == m.1) = false := beq_eq_false_iff_ne.mpr fun h => hkey h.symm
        rw [List.lookup_cons, hlookup, List.filter_cons_of_neg (by simpa using hkey)]
        exact ih hmembers

/-- Of an object, the members of the key are taken, or all for the star. -/
theorem map_takenParts_object (hkeys : (members.map (·.1)).Nodup) :
    (takenParts key (.object members)).map (·.2) = matching key members := by
  rw [takenParts, parts, List.filter_map, List.map_map, matching]
  by_cases hall : key = "*"
  · subst hall
    rw [if_pos rfl, List.filter_eq_self.mpr fun _ _ => by simp [JsonStep.isTaken]]
    rfl
  · have htaken : ((fun p : JsonStep × Json => p.1.isTaken key) ∘
        fun m : String × Json => (JsonStep.member m.1, m.2)) = fun m => m.1 == key := by
      funext m
      simp [JsonStep.isTaken, hall]
    rw [if_neg hall, htaken, lookup_toList_eq hkeys]
    rfl

/-- Of an array nothing is taken, or everything for the star. -/
theorem map_takenParts_array (items : List Json) :
    (takenParts key (.array items)).map (·.2) = if key = "*" then items else [] := by
  rw [takenParts, parts, List.filter_map, List.map_map]
  by_cases hall : key = "*"
  · subst hall
    rw [if_pos rfl, List.filter_eq_self.mpr fun _ _ => by simp [JsonStep.isTaken]]
    exact List.zipIdx_map_fst 0 items
  · rw [if_neg hall, List.filter_eq_nil_iff.mpr fun _ _ => by simp [JsonStep.isTaken, hall]]
    rfl

theorem memberDescendants_eq (key : String) (members : List (String × Json)) :
    memberDescendants key members = members.flatMap fun m => descendants key m.2 := by
  induction members with
  | nil => rfl
  | cons m members ih => rw [memberDescendants, ih, List.flatMap_cons]

theorem itemDescendants_eq (key : String) (items : List Json) :
    itemDescendants key items = items.flatMap (descendants key) := by
  induction items with
  | nil => rfl
  | cons v items ih => rw [itemDescendants, ih, List.flatMap_cons]

/-- Descent takes parts, and then what it takes inside each of all parts. -/
theorem descendants_eq (key : String) (hv : v.HasDistinctKeys) :
    descendants key v = (takenParts key v).map (·.2) ++
      (parts v).flatMap fun p => descendants key p.2 := by
  cases v with
  | object members =>
      cases hv with
      | scalar hscalar => cases hscalar
      | object hkeys _ =>
          rw [descendants, map_takenParts_object hkeys, memberDescendants_eq, parts,
            List.flatMap_map]
  | array items =>
      have hitems : (items.zipIdx.flatMap fun p => descendants key p.1) =
          items.flatMap (descendants key) := by
        conv_rhs => rw [← List.zipIdx_map_fst 0 items, List.flatMap_map]
      rw [descendants, map_takenParts_array, itemDescendants_eq, parts, List.flatMap_map, hitems]
  | _ => rfl

mutual

/-- The locations that descent for a key goes to, in its order. -/
def descentLocations (key : String) : Json → List (List JsonStep)
  | .object members =>
    (takenParts key (.object members)).map (fun p => [p.1]) ++ memberLocations key members
  | .array items =>
    (takenParts key (.array items)).map (fun p => [p.1]) ++ itemLocations key 0 items
  | _ => []

/-- The locations in the items of an array, the first of which has the given position. -/
def itemLocations (key : String) (n : Nat) : List Json → List (List JsonStep)
  | [] => []
  | v :: rest => (descentLocations key v).map (.item n :: ·) ++ itemLocations key (n + 1) rest

/-- The locations in the members of an object. -/
def memberLocations (key : String) : List (String × Json) → List (List JsonStep)
  | [] => []
  | (name, v) :: rest =>
    (descentLocations key v).map (.member name :: ·) ++ memberLocations key rest

end

theorem memberLocations_eq (key : String) (members : List (String × Json)) :
    memberLocations key members =
      members.flatMap fun m => (descentLocations key m.2).map (.member m.1 :: ·) := by
  induction members with
  | nil => rfl
  | cons m members ih => rw [memberLocations, ih, List.flatMap_cons]

theorem itemLocations_eq (key : String) (n : Nat) (items : List Json) :
    itemLocations key n items =
      (items.zipIdx n).flatMap fun p => (descentLocations key p.1).map (.item p.2 :: ·) := by
  induction items generalizing n with
  | nil => rfl
  | cons v items ih => rw [itemLocations, ih, List.zipIdx_cons, List.flatMap_cons]

/-- The locations that descent goes to are steps, and then those inside each part. -/
theorem descentLocations_eq (key : String) (v : Json) :
    descentLocations key v = ((takenParts key v).map fun p => [p.1]) ++
      (parts v).flatMap fun p => (descentLocations key p.2).map (p.1 :: ·) := by
  cases v with
  | object members => rw [descentLocations, memberLocations_eq, parts, List.flatMap_map]
  | array items => rw [descentLocations, itemLocations_eq, parts, List.flatMap_map]
  | _ => rfl

/-- What is found at the locations is what descent takes. -/
theorem map_valueAt?_descentLocations (key : String) (hv : v.HasDistinctKeys) :
    (descentLocations key v).map (valueAt? · v) = (descendants key v).map some := by
  induction hv using induction_parts with
  | step v hv ih =>
      have hnear : (((takenParts key v).map fun p => [p.1]).map (valueAt? · v)) =
          ((takenParts key v).map (·.2)).map some := by
        rw [List.map_map, List.map_map]
        refine List.map_congr_left fun p hp => ?_
        exact valueAt?_of_mem_parts hv (List.mem_filter.mp hp).1 []
      have hdeep (p : JsonStep × Json) (hp : p ∈ parts v) :
          ((descentLocations key p.2).map (p.1 :: ·)).map (valueAt? · v) =
            (descendants key p.2).map some := by
        rw [← ih p hp, List.map_map]
        exact List.map_congr_left fun rest _ => valueAt?_of_mem_parts hv hp rest
      rw [descentLocations_eq, descendants_eq key hv, List.map_append, List.map_append, hnear,
        List.map_flatMap, List.map_flatMap, List.flatMap_congr hdeep]

/-- A descent does not take the value that it begins at. -/
@[simp] theorem nil_not_mem_descentLocations (key : String) (v : Json) :
    [] ∉ descentLocations key v := by
  rw [descentLocations_eq, List.mem_append, List.mem_map, List.mem_flatMap]
  rintro (⟨p, -, hp⟩ | ⟨p, -, hp⟩)
  · cases hp
  · obtain ⟨rest, -, hrest⟩ := List.mem_map.mp hp
    cases hrest

/-- A descent takes a part, or descends into it. -/
theorem cons_mem_descentLocations_iff :
    step :: rest ∈ descentLocations key v ↔ ∃ w, (step, w) ∈ parts v ∧
      (rest = [] ∧ step.isTaken key = true ∨ rest ∈ descentLocations key w) := by
  rw [descentLocations_eq, List.mem_append, List.mem_map, List.mem_flatMap]
  constructor
  · rintro (⟨p, hp, heq⟩ | ⟨p, hp, hrest⟩)
    · obtain ⟨rfl, rfl⟩ := List.cons.inj heq
      obtain ⟨hmem, htaken⟩ := List.mem_filter.mp hp
      exact ⟨p.2, hmem, Or.inl ⟨rfl, htaken⟩⟩
    · obtain ⟨other, hother, heq⟩ := List.mem_map.mp hrest
      obtain ⟨rfl, rfl⟩ := List.cons.inj heq
      exact ⟨p.2, hp, Or.inr hother⟩
  · rintro ⟨w, hmem, ⟨rfl, htaken⟩ | hrest⟩
    · exact Or.inl ⟨(step, w), List.mem_filter.mpr ⟨hmem, htaken⟩, rfl⟩
    · exact Or.inr ⟨(step, w), hmem, List.mem_map_of_mem hrest⟩

/-- The last step of the address is one that descent takes. -/
def EndsTaken (key : String) (address : List JsonStep) : Prop :=
  ∃ step ∈ address.getLast?, step.isTaken key = true

/-- Descent goes to all locations whose last step it takes. -/
theorem mem_descentLocations_iff (hv : v.HasDistinctKeys) :
    address ∈ descentLocations key v ↔ IsLocation v address ∧ EndsTaken key address := by
  induction address generalizing v with
  | nil =>
      refine ⟨fun h => absurd h (nil_not_mem_descentLocations key v), ?_⟩
      rintro ⟨-, step, hstep, -⟩
      cases hstep
  | cons step rest ih =>
      have hparts : (∃ w, (step, w) ∈ parts v ∧
            (rest = [] ∧ step.isTaken key = true ∨ rest ∈ descentLocations key w)) ↔
          ∃ w, (step, w) ∈ parts v ∧ IsLocation w rest ∧ EndsTaken key (step :: rest) := by
        refine exists_congr fun w => and_congr_right fun hmem => ?_
        rw [ih (hasDistinctKeys_of_mem_parts hv hmem)]
        cases rest with
        | nil => simp [EndsTaken, isLocation_nil]
        | cons next rest => simp [EndsTaken, List.getLast?_cons_cons]
      rw [cons_mem_descentLocations_iff, hparts, isLocation_cons_iff hv]
      simp only [← and_assoc, exists_and_right]

/-- What is at a location stands before what is inside it. -/
theorem pairwise_descentLocations (key : String) (hv : v.HasDistinctKeys) :
    (descentLocations key v).Pairwise fun earlier later => ¬later <+: earlier := by
  induction hv using induction_parts with
  | step v hv ih =>
      have hsteps : (parts v).Pairwise fun p q => p.1 ≠ q.1 :=
        List.pairwise_map.mp (nodup_steps hv)
      rw [descentLocations_eq]
      refine List.pairwise_append.mpr ⟨?_, List.pairwise_flatMap.mpr ⟨?_, ?_⟩, ?_⟩
      · refine List.pairwise_map.mpr ((hsteps.filter _).imp fun hne hprefix => hne ?_)
        exact (List.cons_prefix_cons.mp hprefix).1.symm
      · refine fun p hp => List.pairwise_map.mpr ((ih p hp).imp fun hnot hprefix => hnot ?_)
        exact (List.cons_prefix_cons.mp hprefix).2
      · refine hsteps.imp fun hne => ?_
        simp only [List.forall_mem_map]
        exact fun _ _ _ _ hprefix => hne (List.cons_prefix_cons.mp hprefix).1.symm
      -- a location further inside is too long to lead to one a single step away
      · simp only [List.forall_mem_map, List.forall_mem_flatMap]
        intro p _ q _ rest hrest hprefix
        obtain ⟨-, hnil⟩ := List.cons_prefix_cons.mp hprefix
        rw [List.prefix_nil.mp hnil] at hrest
        exact nil_not_mem_descentLocations key q.2 hrest

/-- **Descent.**  It lists the locations whose last step it takes. -/
theorem listsLocations_descendants (key : String) (hv : v.HasDistinctKeys) :
    ListsLocations v (EndsTaken key) (descendants key v) := by
  have hpairwise := pairwise_descentLocations key hv
  refine ⟨descentLocations key v, fun _ => mem_descentLocations_iff hv, ?_, hpairwise,
    map_valueAt?_descentLocations key hv⟩
  refine hpairwise.imp fun hnot heq => hnot ?_
  rw [heq]

/-- The locations that are listed are those that are sought, however that is said. -/
theorem ListsLocations.congr {sought other : List JsonStep → Prop} {values : List Json}
    (h : ListsLocations v sought values) (hsame : ∀ address, sought address ↔ other address) :
    ListsLocations v other values := by
  obtain ⟨locations, hmem, hrest⟩ := h
  exact ⟨locations, fun address => (hmem address).trans (and_congr_right' (hsame address)), hrest⟩

/-- The star takes every step. -/
@[simp] theorem isTaken_all (step : JsonStep) : step.isTaken "*" = true := by
  cases step with
  | member name => rfl
  | item position => rfl

/-- A key takes the step to its member. -/
theorem isTaken_iff (hall : key ≠ "*") : step.isTaken key = true ↔ step = .member key := by
  cases step with
  | member name => simp [JsonStep.isTaken, hall]
  | item position => simp [JsonStep.isTaken, hall]

@[simp] theorem endsTaken_all_iff : EndsTaken "*" address ↔ address ≠ [] := by
  constructor
  · rintro ⟨step, hstep, -⟩ rfl
    cases hstep
  · intro hne
    exact ⟨address.getLast hne, List.getLast?_eq_some_getLast hne, isTaken_all _⟩

theorem endsTaken_iff (hall : key ≠ "*") :
    EndsTaken key address ↔ address.getLast? = some (.member key) := by
  constructor
  · rintro ⟨step, hstep, htaken⟩
    rw [(isTaken_iff hall).mp htaken] at hstep
    exact hstep
  · intro hlast
    exact ⟨.member key, hlast, (isTaken_iff hall).mpr rfl⟩

/-! ## Paths -/

/-- The path of descent for a key is read as that. -/
theorem queryJson_descend (key : String) (hne : key ≠ "")
    (hmarks : ∀ c ∈ key.toList, endsName c = false)
    (hlast : ∀ c ∈ key.toList.getLast?, isBlank c = false) (v : Json) :
    queryJson v ("$.." ++ key) = .ok (descendants key v) := by
  have hlist : ("$.." ++ key).toList = '$' :: '.' :: '.' :: key.toList := String.toList_append
  have hname : IsName key.toList := ⟨fun h => hne (String.toList_eq_nil_iff.mp h), hmarks⟩
  have hspelled : Spelled ('.' :: '.' :: key.toList) [.descend key] := by
    have h := Spelled.descend hname .nil
    rwa [List.append_nil, String.ofList_toList] at h
  have htrim : trim ('$' :: '.' :: '.' :: key.toList) = '$' :: '.' :: '.' :: key.toList := by
    refine trim_eq_self (fun c hc => ?_) fun c hc => ?_
    · rw [← Option.some.inj hc]
      decide
    · obtain ⟨d, rest, hcons⟩ := List.exists_cons_of_ne_nil hname.ne_nil
      rw [hcons, List.getLast?_cons_cons, List.getLast?_cons_cons, List.getLast?_cons_cons,
        ← hcons] at hc
      rw [hlast c hc]
      exact Bool.false_ne_true
  refine queryJson_eq_ok_iff.mpr ⟨[.descend key], ?_, ?_⟩
  · rw [hlist, readJsonPath_eq_ok_iff, belowRoot_rooted htrim]
    exact .marked hspelled
  · rw [applySelectors_cons]
    exact List.flatMap_singleton' _

/-- The path `$..key` finds the values of all members of that name, each location once, and
what is at a location before what is inside it. -/
def FindsMembers (v : Json) (key : String) : Prop :=
  ∃ values, queryJson v ("$.." ++ key) = .ok values ∧
    ListsLocations v (fun address => address.getLast? = some (.member key)) values

/-- **Paths of descent.**  Let a key be neither empty nor `*`, have no mark of a path, and
not end with a blank, which is trimmed.  Then `$..` with the key behind it finds the values
of all members of that name, and `$..*` finds all values inside a value; each location once,
and what is at a location before what is inside it. -/
theorem queryJson_descent (hv : v.HasDistinctKeys) :
    (∀ key : String, key ≠ "" → key ≠ "*" → '.' ∉ key.toList → '[' ∉ key.toList →
      (∀ c ∈ key.toList.getLast?, isBlank c = false) → FindsMembers v key) ∧
    ∃ values, queryJson v "$..*" = .ok values ∧ ListsLocations v (· ≠ []) values := by
  refine ⟨fun key hne hall hdot hbracket hlast => ?_, descendants "*" v, ?_, ?_⟩
  · have hmarks : ∀ c ∈ key.toList, endsName c = false := by
      intro c hc
      rw [endsName, Bool.or_eq_false_iff, beq_eq_false_iff_ne, beq_eq_false_iff_ne]
      constructor
      · rintro rfl
        exact hdot hc
      · rintro rfl
        exact hbracket hc
    exact ⟨descendants key v, queryJson_descend key hne hmarks hlast v,
      (listsLocations_descendants key hv).congr fun _ => endsTaken_iff hall⟩
  · exact queryJson_descend "*" (by decide) (by decide) (by decide) v
  · exact (listsLocations_descendants "*" hv).congr fun _ => endsTaken_all_iff

/-- A part with a part of the same name, beside an array. -/
def nestedPart : Json :=
  .object [("a", .array [.string "x"]), ("b", .object [("a", .null), ("b", .string "y")])]

/-- It is read from a page, so no object in it has a key twice. -/
theorem hasDistinctKeys_nestedPart : nestedPart.HasDistinctKeys := by
  have hpage : Json.parse? "\x7b\"a\":[\"x\"],\"b\":\x7b\"a\":null,\"b\":\"y\"\x7d\x7d" =
      some nestedPart := by
    cbv
  exact Json.hasDistinctKeys_of_parse? hpage

/-- The outer part comes before the one inside it. -/
theorem queryJson_descent_nestedPart :
    nestedPart.HasDistinctKeys ∧ FindsMembers nestedPart "b" ∧
      queryJson nestedPart "$..b" =
        .ok [.object [("a", .null), ("b", .string "y")], .string "y"] ∧
      ∃ values, queryJson nestedPart "$..*" = .ok values ∧
        ListsLocations nestedPart (· ≠ []) values := by
  obtain ⟨hmembers, hall⟩ := queryJson_descent hasDistinctKeys_nestedPart
  refine ⟨hasDistinctKeys_nestedPart,
    hmembers "b" (by decide) (by decide) (by decide) (by decide) (by decide), ?_, hall⟩
  exact queryJson_descend "b" (by decide) (by decide) (by decide) nestedPart

/-- The empty key is missed by the path, and the key that ends with a blank is looked for
without it. -/
theorem not_findsMembers_trimmedKeys :
    (Json.object [("", .string "x")]).HasDistinctKeys ∧
      ¬FindsMembers (.object [("", .string "x")]) "" ∧
      (Json.object [("a ", .string "x")]).HasDistinctKeys ∧
      ¬FindsMembers (.object [("a ", .string "x")]) "a " := by
  have hdistinct (key : String) : (Json.object [(key, .string "x")]).HasDistinctKeys :=
    .object (List.nodup_singleton key) (List.forall_mem_singleton.mpr (.scalar rfl))
  refine ⟨hdistinct "", ?_, hdistinct "a ", ?_⟩
  · rintro ⟨values, hvalues, -⟩
    have hread : readJsonPath "$..".toList = .error (.missingKey "$..") := by decide +kernel
    obtain ⟨selectors, hselectors, -⟩ := queryJson_eq_ok_iff.mp hvalues
    cases hread.symm.trans hselectors
  · rintro ⟨values, hvalues, locations, hmem, -, -, hfound⟩
    have hread : readJsonPath "$..a ".toList = .ok [.descend "a"] := by decide +kernel
    obtain ⟨selectors, hselectors, rfl⟩ := queryJson_eq_ok_iff.mp hvalues
    cases hread.symm.trans hselectors
    have hlocation : [JsonStep.member "a "] ∈ locations :=
      (hmem _).mpr ⟨⟨rfl, List.forall_mem_singleton.mpr trivial⟩, rfl⟩
    have hnone : locations = [] := List.map_eq_nil_iff.mp hfound
    rw [hnone] at hlocation
    cases hlocation

end Folio.Rule
