import Folio.Proofs.Text.Search

/-!
# Folio.Proofs.Text.Replace

Replacing in texts that are joined.  Where no occurrence of the pattern lies
across the joint (`Apart`), the two texts are cut and replaced in one after the
other (`cut?_append_left`, `replaceAll_append`); what stands at the joint tells whether
one can.  Replacing changes the length by as much for every occurrence
(`length_replaceAll`).
-/

namespace Folio.Text

variable {pat sub s t before after : List Char} {c p : Char}

/-! ## Joints -/

/-- No occurrence of the pattern lies across the joint of two texts. -/
def Apart (pat s t : List Char) : Prop :=
  ∀ left right, pat = left ++ right → left ≠ [] → right ≠ [] → left <:+ s → ¬right <+: t

/-- Where no pattern lies across the joint, none does from further on. -/
theorem Apart.of_isSuffix (h : Apart pat s t) {rest : List Char} (hrest : rest <:+ s) :
    Apart pat rest t :=
  fun left right hpat hleft hright hsuffix => h left right hpat hleft hright (hsuffix.trans hrest)

/-- A pattern that begins in the first text ends in it. -/
theorem Apart.isPrefix_of_append (h : Apart pat s t) (hs : s ≠ []) (hpat : pat <+: s ++ t) :
    pat <+: s := by
  obtain ⟨rest, hrest⟩ := hpat
  rcases List.append_eq_append_iff.mp hrest with ⟨more, rfl, -⟩ | ⟨right, rfl, rfl⟩
  · exact List.prefix_append pat more
  · by_cases hright : right = []
    · rw [hright, List.append_nil]
    · exact absurd (List.prefix_append right rest) (h s right rfl hs hright List.suffix_rfl)

/-- The first text lacks the character that the pattern begins with. -/
theorem apart_of_head_not_mem (hp : p ∉ s) (ps t : List Char) : Apart (p :: ps) s t := by
  intro left right hpat hleft _ hsuffix
  obtain ⟨d, left, rfl⟩ := List.exists_cons_of_ne_nil hleft
  obtain ⟨rfl, -⟩ := List.cons.inj hpat
  exact absurd (hsuffix.subset List.mem_cons_self) hp

/-- The second text lacks the character that the pattern ends with. -/
theorem apart_of_last_not_mem (hp : p ∉ t) (init s : List Char) : Apart (init ++ [p]) s t := by
  intro left right hpat _ hright _ hbegins
  obtain ⟨more, last, rfl⟩ := List.eq_nil_or_concat right |>.resolve_left hright
  rw [List.concat_eq_append, ← List.append_assoc] at hpat
  obtain ⟨-, rfl⟩ := List.append_singleton_inj.mp hpat
  exact absurd (hbegins.subset (by simp)) hp

/-- The second text begins with a character that the pattern has nowhere but in front. -/
theorem apart_cons_of_not_mem_tail {ps : List Char} (hc : c ∉ ps) (s t : List Char) :
    Apart (p :: ps) s (c :: t) := by
  intro left right hpat hleft hright _ hbegins
  obtain ⟨d, left, rfl⟩ := List.exists_cons_of_ne_nil hleft
  obtain ⟨e, right, rfl⟩ := List.exists_cons_of_ne_nil hright
  obtain ⟨-, rfl⟩ := List.cons.inj hpat
  obtain ⟨rfl, -⟩ := List.cons_prefix_cons.mp hbegins
  exact hc (by simp)

/-- No part of the pattern but the whole of it is both at its front and at its end. -/
def Borderless (pat : List Char) : Prop :=
  ∀ part ∈ pat.tails, part ≠ [] → part <+: pat → part = pat

instance (pat : List Char) : Decidable (Borderless pat) :=
  inferInstanceAs (Decidable (∀ part ∈ pat.tails, part ≠ [] → part <+: pat → part = pat))

/-- Two occurrences of such a pattern do not overlap. -/
theorem Borderless.apart (h : Borderless pat) (s t : List Char) : Apart pat s (pat ++ t) := by
  intro left right hpat hleft hright _ hbegins
  have hsuffix : right <:+ pat := ⟨left, hpat.symm⟩
  have hfront : right <+: pat :=
    List.prefix_of_prefix_length_le hbegins (List.prefix_append pat t) hsuffix.length_le
  have hwhole := h right ((List.mem_tails right pat).mpr hsuffix) hright hfront
  rw [hwhole] at hpat
  exact hleft (List.self_eq_append_left.mp hpat)

/-! ## Cutting -/

/-- What stands behind a text does not change its first occurrence. -/
theorem cut?_append_right (h : cut? pat s = some (before, after)) (t : List Char) :
    cut? pat (s ++ t) = some (before, after ++ t) := by
  induction s generalizing before with
  | nil =>
      obtain ⟨rest, hstrip, heq⟩ := Option.map_eq_some_iff.mp h
      obtain ⟨rfl, rfl⟩ := Prod.mk.inj heq
      refine cut?_of_stripPrefix? ?_
      rw [eq_append_of_stripPrefix? hstrip, List.append_assoc]
      exact stripPrefix?_append _ _
  | cons c s ih =>
      rw [cut?] at h
      split at h
      · next rest hstrip =>
        obtain ⟨rfl, rfl⟩ := Prod.mk.inj (Option.some.inj h)
        refine cut?_of_stripPrefix? ?_
        rw [eq_append_of_stripPrefix? hstrip, List.append_assoc]
        exact stripPrefix?_append _ _
      · next hstrip =>
        obtain ⟨⟨front, rest⟩, hcut, heq⟩ := Option.map_eq_some_iff.mp h
        obtain ⟨rfl, rfl⟩ := Prod.mk.inj heq
        -- the occurrence further on leaves no room for one that ends beyond it
        have hlength : pat.length ≤ (c :: s).length := by
          rw [eq_append_of_cut? hcut, List.length_cons, List.length_append, List.length_append]
          omega
        have hnot : stripPrefix? pat (c :: (s ++ t)) = none := by
          rw [stripPrefix?_eq_none_iff] at hstrip ⊢
          exact fun hpat => hstrip
            (List.prefix_of_prefix_length_le hpat (List.prefix_append (c :: s) t) hlength)
        simp [cut?, hnot, ih hcut]

/-- **Cutting joined texts.**  Where the first has no occurrence, the second is cut. -/
theorem cut?_append_left (hlacks : ¬pat <:+: s) (hapart : Apart pat s t) :
    cut? pat (s ++ t) = (cut? pat t).map fun parts => (s ++ parts.1, parts.2) := by
  induction s with
  | nil => simp
  | cons c s ih =>
      rw [List.infix_cons_iff, not_or] at hlacks
      have hnot : stripPrefix? pat (c :: (s ++ t)) = none := by
        rw [stripPrefix?_eq_none_iff]
        exact fun hpat => hlacks.1 (hapart.isPrefix_of_append (List.cons_ne_nil c s) hpat)
      rw [List.cons_append, cut?, hnot, ih hlacks.2 (hapart.of_isSuffix (List.suffix_cons c s)),
        Option.map_map]
      rfl

/-- A pattern is cut off where the text begins with it. -/
@[simp] theorem cut?_pattern (pat t : List Char) : cut? pat (pat ++ t) = some ([], t) :=
  cut?_of_stripPrefix? (stripPrefix?_append pat t)

/-- A text is cut at a pattern behind it that begins there first. -/
theorem cut?_append_pattern (hlacks : ¬pat <:+: s) (hapart : Apart pat s (pat ++ t)) :
    cut? pat (s ++ (pat ++ t)) = some (s, t) := by
  simp [cut?_append_left hlacks hapart]

/-! ## Replacing -/

@[simp] theorem splitOn_ne_nil (p : Char) (ps s : List Char) : splitOn p ps s ≠ [] := by
  rw [splitOn]
  split <;> exact List.cons_ne_nil _ _

/-- A piece ends at the first occurrence. -/
theorem splitOn_of_cut? {ps : List Char} (h : cut? (p :: ps) s = some (before, after)) :
    splitOn p ps s = before :: splitOn p ps after := by
  rw [splitOn]
  split
  · next hnone =>
    rw [h] at hnone
    cases hnone
  · next hsome =>
    rw [h] at hsome
    cases hsome
    rfl

/-- A text without the pattern is one piece. -/
theorem splitOn_of_lacks {ps : List Char} (h : ¬(p :: ps) <:+: s) : splitOn p ps s = [s] := by
  have hnone := cut?_eq_none_iff.mpr h
  rw [splitOn]
  split
  · rfl
  · next hsome =>
    rw [hnone] at hsome
    cases hsome

/-- A text without the pattern stays as it is. -/
theorem replaceAll_of_lacks (hpat : pat ≠ []) (h : ¬pat <:+: s) : replaceAll pat sub s = s := by
  obtain ⟨p, ps, rfl⟩ := List.exists_cons_of_ne_nil hpat
  rw [replaceAll, splitOn_of_lacks h, List.intercalate_singleton]

/-- The first occurrence is replaced, and then those behind it. -/
theorem replaceAll_of_cut? (hpat : pat ≠ []) (h : cut? pat s = some (before, after)) :
    replaceAll pat sub s = before ++ (sub ++ replaceAll pat sub after) := by
  obtain ⟨p, ps, rfl⟩ := List.exists_cons_of_ne_nil hpat
  rw [replaceAll, splitOn_of_cut? h, List.intercalate_cons_of_ne_nil (splitOn_ne_nil p ps after),
    List.append_assoc, replaceAll]

/-- A pattern at the beginning is replaced. -/
theorem replaceAll_pattern (hpat : pat ≠ []) (t : List Char) :
    replaceAll pat sub (pat ++ t) = sub ++ replaceAll pat sub t := by
  rw [replaceAll_of_cut? hpat (cut?_pattern pat t), List.nil_append]

/-- A text is looked through from one occurrence of the pattern to the next. -/
theorem cut?_induction {motive : List Char → Prop} (hpat : pat ≠ [])
    (lacks : ∀ s, ¬pat <:+: s → motive s)
    (cut : ∀ s before after, cut? pat s = some (before, after) → ¬pat <:+: before → motive after →
      motive s) (s : List Char) : motive s := by
  induction hn : s.length using Nat.strong_induction_on generalizing s with
  | _ n ih =>
      cases hcut : cut? pat s with
      | none => exact lacks s (cut?_eq_none_iff.mp hcut)
      | some parts =>
          obtain ⟨before, after⟩ := parts
          have hbefore : ¬pat <:+: before := not_isInfix_of_cut? hpat hcut
          have hless : after.length < n := by
            rw [← hn]
            exact length_lt_of_cut? hpat hcut
          exact cut s before after hcut hbefore (ih after.length hless after rfl)

/-- **Replacing in joined texts.** -/
theorem replaceAll_append (hpat : pat ≠ []) (hapart : Apart pat s t) :
    replaceAll pat sub (s ++ t) = replaceAll pat sub s ++ replaceAll pat sub t := by
  induction s using cut?_induction hpat with
  | lacks s hlacks =>
      rw [replaceAll_of_lacks hpat hlacks]
      cases hcut : cut? pat t with
      | none =>
          have hnone : cut? pat (s ++ t) = none := by
            rw [cut?_append_left hlacks hapart, hcut, Option.map_none]
          rw [replaceAll_of_lacks hpat (cut?_eq_none_iff.mp hnone),
            replaceAll_of_lacks hpat (cut?_eq_none_iff.mp hcut)]
      | some parts =>
          obtain ⟨before, after⟩ := parts
          have hsome : cut? pat (s ++ t) = some (s ++ before, after) := by
            rw [cut?_append_left hlacks hapart, hcut, Option.map_some]
          rw [replaceAll_of_cut? hpat hsome, replaceAll_of_cut? hpat hcut, List.append_assoc]
  | cut s before after hcut _ ih =>
      have hafter : after <:+ s := by
        rw [eq_append_of_cut? hcut, ← List.append_assoc]
        exact List.suffix_append _ after
      rw [replaceAll_of_cut? hpat (cut?_append_right hcut t), replaceAll_of_cut? hpat hcut,
        ih (hapart.of_isSuffix hafter)]
      simp only [List.append_assoc]

/-! ## Joined pieces -/

/-- What is joined stands in the text. -/
theorem isInfix_intercalate {delim piece : List Char} {pieces : List (List Char)}
    (h : piece ∈ pieces) : piece <:+: delim.intercalate pieces := by
  induction pieces with
  | nil => cases h
  | cons first pieces ih =>
      cases pieces with
      | nil =>
          rw [List.mem_singleton.mp h, List.intercalate_singleton]
      | cons next pieces =>
          rw [List.intercalate_cons_cons]
          rcases List.mem_cons.mp h with rfl | h
          · rw [List.append_assoc]
            exact (List.prefix_append _ _).isInfix
          · exact (ih h).trans (List.suffix_append _ _).isInfix

/-- Joined texts are empty only when there are none, unless one of them is. -/
theorem intercalate_eq_empty_iff {delim : String} {values : List String}
    (h : ∀ value ∈ values, value ≠ "") : delim.intercalate values = "" ↔ values = [] := by
  constructor
  · intro hjoined
    cases values with
    | nil => rfl
    | cons value rest =>
        have hlist := congrArg String.toList hjoined
        rw [String.toList_intercalate, String.toList_empty] at hlist
        have hinfix : value.toList <:+: delim.toList.intercalate
            ((value :: rest).map String.toList) := isInfix_intercalate (by simp)
        rw [hlist, List.infix_nil, String.toList_eq_nil_iff] at hinfix
        exact absurd hinfix (h value List.mem_cons_self)
  · rintro rfl
    rfl

/-- Pieces in two groups are joined group by group. -/
theorem intercalate_append {first second : List (List Char)} (hfirst : first ≠ [])
    (hsecond : second ≠ []) (delim : List Char) :
    delim.intercalate (first ++ second) =
      delim.intercalate first ++ (delim ++ delim.intercalate second) := by
  induction first with
  | nil => contradiction
  | cons piece first ih =>
      by_cases hne : first = []
      · rw [hne, List.singleton_append, List.intercalate_cons_of_ne_nil hsecond,
          List.intercalate_singleton, List.append_assoc]
      · have hjoined : first ++ second ≠ [] := List.append_ne_nil_of_left_ne_nil hne second
        rw [List.cons_append, List.intercalate_cons_of_ne_nil hjoined,
          List.intercalate_cons_of_ne_nil hne, ih hne]
        simp only [List.append_assoc]

/-- What is in no piece and not between them is not in the joined text. -/
theorem not_mem_intercalate {delim : List Char} {pieces : List (List Char)} (hdelim : c ∉ delim)
    (hpieces : ∀ piece ∈ pieces, c ∉ piece) : c ∉ delim.intercalate pieces := fun h =>
  (mem_of_mem_intercalate h).elim hdelim fun ⟨piece, hpiece, hc⟩ => hpieces piece hpiece hc

/-- A joined text is as long as its pieces and what is between them. -/
theorem length_intercalate (delim : List Char) (pieces : List (List Char)) :
    (delim.intercalate pieces).length =
      pieces.flatten.length + (pieces.length - 1) * delim.length := by
  induction pieces with
  | nil => simp
  | cons piece pieces ih =>
      by_cases hmore : pieces = []
      · simp [hmore]
      · obtain ⟨n, hn⟩ := Nat.exists_eq_add_one_of_ne_zero (mt List.length_eq_zero_iff.mp hmore)
        rw [List.intercalate_cons_of_ne_nil hmore]
        simp only [List.length_append, List.flatten_cons, List.length_cons, ih, hn,
          Nat.add_sub_cancel, Nat.add_mul, Nat.one_mul]
        omega

/-- Where the pieces lack the character that the pattern begins with, each joint is
replaced. -/
theorem replaceAll_intercalate {ps : List Char} {pieces : List (List Char)}
    (hpieces : ∀ piece ∈ pieces, p ∉ piece) (hne : pieces ≠ []) (sub t : List Char) :
    replaceAll (p :: ps) sub ((p :: ps).intercalate pieces ++ t) =
      sub.intercalate pieces ++ replaceAll (p :: ps) sub t := by
  have hpat : p :: ps ≠ [] := List.cons_ne_nil p ps
  induction pieces with
  | nil => contradiction
  | cons piece pieces ih =>
      obtain ⟨hpiece, hpieces⟩ := List.forall_mem_cons.mp hpieces
      have hlacks : ¬(p :: ps) <:+: piece :=
        fun hinside => hpiece (hinside.subset List.mem_cons_self)
      by_cases hmore : pieces = []
      · simp [hmore, replaceAll_append hpat (apart_of_head_not_mem hpiece ps t),
          replaceAll_of_lacks hpat hlacks]
      · rw [List.intercalate_cons_of_ne_nil hmore, List.intercalate_cons_of_ne_nil hmore]
        simp only [List.append_assoc]
        rw [replaceAll_append hpat (apart_of_head_not_mem hpiece ps _),
          replaceAll_of_lacks hpat hlacks, replaceAll_pattern hpat, ih hpieces hmore]

theorem isPrefix_append_cases {r : List Char} (h : r ++ [c] <+: s ++ t) :
    r ++ [c] <+: s ∨ ∃ rest, r = s ++ rest ∧ rest ++ [c] <+: t := by
  obtain ⟨back, hback⟩ := h
  rcases List.append_eq_append_iff.mp hback with ⟨more, rfl, -⟩ | ⟨part, hpart, rfl⟩
  · exact Or.inl (List.prefix_append _ more)
  · rcases List.eq_nil_or_concat part with rfl | ⟨rest, last, rfl⟩
    · exact Or.inl (by rw [hpart, List.append_nil])
    · rw [List.concat_eq_append, ← List.append_assoc] at hpart
      obtain ⟨rfl, rfl⟩ := List.append_singleton_inj.mp hpart
      exact Or.inr ⟨rest, rfl, by simp⟩

/-- What a character ends goes beyond a text that lacks the character. -/
theorem exists_of_isPrefix_append_of_not_mem {r : List Char} (hc : c ∉ s)
    (h : r ++ [c] <+: s ++ t) : ∃ rest, r = s ++ rest ∧ rest ++ [c] <+: t :=
  (isPrefix_append_cases h).resolve_left fun hs => hc (hs.subset (by simp))

/-- What stands in front of a character after replacing stood there before, but for the
pattern. -/
theorem exists_parts_of_isPrefix_replaceAll {r : List Char} (hpat : pat ≠ []) (hc : c ∉ sub)
    (h : r ++ [c] <+: replaceAll pat sub s) :
    ∃ parts, parts ≠ [] ∧ sub.intercalate parts = r ∧ pat.intercalate parts ++ [c] <+: s := by
  induction s using cut?_induction hpat generalizing r with
  | lacks s hlacks =>
      rw [replaceAll_of_lacks hpat hlacks] at h
      refine ⟨[r], List.cons_ne_nil _ _, List.intercalate_singleton, ?_⟩
      rwa [List.intercalate_singleton]
  | cut s before after hcut _ ih =>
      rw [replaceAll_of_cut? hpat hcut] at h
      rw [eq_append_of_cut? hcut]
      rcases isPrefix_append_cases h with hbefore | ⟨rest, rfl, hrest⟩
      · refine ⟨[r], List.cons_ne_nil _ _, List.intercalate_singleton, ?_⟩
        rw [List.intercalate_singleton]
        exact hbefore.trans (List.prefix_append before _)
      · obtain ⟨more, rfl, hmore⟩ := exists_of_isPrefix_append_of_not_mem hc hrest
        obtain ⟨parts, hparts, rfl, hafter⟩ := ih hmore
        refine ⟨before :: parts, List.cons_ne_nil _ _, ?_, ?_⟩
        · rw [List.intercalate_cons_of_ne_nil hparts, List.append_assoc]
        · rw [List.intercalate_cons_of_ne_nil hparts]
          simp only [List.append_assoc, List.prefix_append_right_inj]
          exact hafter

/-! ## Counting -/

/-- How often the pattern begins in a text. -/
def occurrences (pat : List Char) : List Char → Nat
  | [] => 0
  | c :: s => (if pat <+: c :: s then 1 else 0) + occurrences pat s

theorem occurrences_of_lacks (h : ¬pat <:+: s) : occurrences pat s = 0 := by
  induction s with
  | nil => rfl
  | cons c s ih =>
      rw [List.infix_cons_iff, not_or] at h
      rw [occurrences, if_neg h.1, ih h.2]

/-- Joining texts loses no occurrence. -/
theorem le_occurrences_append (pat s t : List Char) :
    occurrences pat s + occurrences pat t ≤ occurrences pat (s ++ t) := by
  induction s with
  | nil => simp [occurrences]
  | cons c s ih =>
      have hmono : (if pat <+: c :: s then 1 else 0) ≤ if pat <+: c :: (s ++ t) then 1 else 0 := by
        split
        · next hpat =>
          have hjoined : pat <+: c :: (s ++ t) := hpat.trans (List.prefix_append (c :: s) t)
          rw [if_pos hjoined]
        · exact Nat.zero_le _
      rw [List.cons_append, occurrences, occurrences]
      omega

/-- Occurrences are counted on both sides of a joint that none lies across. -/
theorem occurrences_append (hapart : Apart pat s t) :
    occurrences pat (s ++ t) = occurrences pat s + occurrences pat t := by
  induction s with
  | nil => simp [occurrences]
  | cons c s ih =>
      have hfront : pat <+: c :: (s ++ t) ↔ pat <+: c :: s :=
        ⟨hapart.isPrefix_of_append (List.cons_ne_nil c s),
          fun hpat => hpat.trans (List.prefix_append (c :: s) t)⟩
      rw [List.cons_append, occurrences, occurrences,
        ih (hapart.of_isSuffix (List.suffix_cons c s))]
      simp only [hfront]
      omega

/-- A pattern that does not overlap itself does not lie across its own end. -/
theorem Borderless.apart_tail {ps : List Char} (h : Borderless (p :: ps)) (t : List Char) :
    Apart (p :: ps) ps t := by
  intro left right hpat hleft _ hsuffix _
  have hwhole : left = p :: ps :=
    h left ((List.mem_tails left _).mpr (hsuffix.trans (List.suffix_cons p ps))) hleft
      ⟨right, hpat.symm⟩
  have hlength := hsuffix.length_le
  rw [hwhole, List.length_cons] at hlength
  omega

/-- A pattern in front is counted once. -/
theorem occurrences_pattern (h : Borderless pat) (hpat : pat ≠ []) (t : List Char) :
    occurrences pat (pat ++ t) = occurrences pat t + 1 := by
  obtain ⟨p, ps, rfl⟩ := List.exists_cons_of_ne_nil hpat
  have hshort : ¬(p :: ps) <:+: ps := by
    intro hinside
    have hlength := hinside.length_le
    rw [List.length_cons] at hlength
    omega
  have hfront : (p :: ps) <+: p :: (ps ++ t) := List.prefix_append (p :: ps) t
  rw [List.cons_append, occurrences, if_pos hfront,
    occurrences_append (h.apart_tail t), occurrences_of_lacks hshort]
  omega

/-- **Lengths.**  Every occurrence changes the length by as much. -/
theorem length_replaceAll (h : Borderless pat) (hpat : pat ≠ []) (sub s : List Char) :
    (replaceAll pat sub s).length + occurrences pat s * pat.length =
      s.length + occurrences pat s * sub.length := by
  induction s using cut?_induction hpat with
  | lacks s hlacks =>
      simp [replaceAll_of_lacks hpat hlacks, occurrences_of_lacks hlacks]
  | cut s before after hcut hbefore ih =>
      have hcount : occurrences pat s = occurrences pat after + 1 := by
        rw [eq_append_of_cut? hcut, occurrences_append (h.apart before after),
          occurrences_of_lacks hbefore, occurrences_pattern h hpat, Nat.zero_add]
      rw [replaceAll_of_cut? hpat hcut, hcount, eq_append_of_cut? hcut]
      simp only [List.length_append, Nat.add_mul, Nat.one_mul]
      omega

end Folio.Text
