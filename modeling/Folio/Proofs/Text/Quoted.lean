import Folio.Proofs.Text.Search

/-!
# Folio.Proofs.Text.Quoted

What stands before an ending and between two quotation marks, and texts that
have nothing to trim.
-/

namespace Folio.Text

variable {pat s inner : List Char} {quote : Char}

@[simp] theorem stripSuffix?_append (s pat : List Char) : stripSuffix? pat (s ++ pat) = some s := by
  simp [stripSuffix?]

theorem eq_append_of_stripSuffix? {before : List Char} (h : stripSuffix? pat s = some before) :
    s = before ++ pat := by
  rw [stripSuffix?, Option.map_eq_some_iff] at h
  obtain ⟨rest, hrest, rfl⟩ := h
  rw [← List.reverse_inj, List.reverse_append, List.reverse_reverse]
  exact eq_append_of_stripPrefix? hrest

theorem stripPrefix?_eq_some_iff {rest : List Char} :
    stripPrefix? pat s = some rest ↔ s = pat ++ rest :=
  ⟨eq_append_of_stripPrefix?, fun h => h ▸ stripPrefix?_append pat rest⟩

theorem startsWith_singleton {c : Char} :
    startsWith [c] s = true ↔ ∃ rest, s = c :: rest := by
  rw [startsWith, Option.isSome_iff_exists]
  exact exists_congr fun rest => stripPrefix?_eq_some_iff

/-- A text in quotation marks is the mark, the inside and the mark. -/
theorem quotedBy?_eq_some_iff :
    quotedBy? quote s = some inner ↔ s = quote :: (inner ++ [quote]) := by
  rw [quotedBy?, Option.bind_eq_some_iff]
  constructor
  · rintro ⟨rest, hrest, hinner⟩
    rw [eq_append_of_stripPrefix? hrest, eq_append_of_stripSuffix? hinner, List.singleton_append]
  · rintro rfl
    exact ⟨inner ++ [quote], stripPrefix?_append [quote] _, stripSuffix?_append inner [quote]⟩

theorem quotedBy?_eq_none {c : Char} (hc : c ≠ quote) (s : List Char) :
    quotedBy? quote (c :: s) = none := by
  rw [Option.eq_none_iff_forall_ne_some]
  intro inner h
  exact hc (List.cons.inj (quotedBy?_eq_some_iff.mp h)).1

/-- What stands before the first of a character, and what stands behind it, are told by the
whole text. -/
theorem eq_of_append_cons {c : Char} {t rest more : List Char} (hs : c ∉ s) (ht : c ∉ t)
    (h : s ++ c :: rest = t ++ c :: more) : s = t ∧ rest = more := by
  induction s generalizing t with
  | nil =>
      cases t with
      | nil => exact ⟨rfl, (List.cons.inj h).2⟩
      | cons d t => exact absurd ((List.cons.inj h).1 ▸ List.mem_cons_self) ht
  | cons d s ih =>
      cases t with
      | nil => exact absurd ((List.cons.inj h).1 ▸ List.mem_cons_self) hs
      | cons e t =>
          obtain ⟨rfl, htail⟩ := List.cons.inj h
          obtain ⟨rfl, rfl⟩ := ih (fun hmem => hs (List.mem_cons_of_mem d hmem))
            (fun hmem => ht (List.mem_cons_of_mem d hmem)) htail
          exact ⟨rfl, rfl⟩

/-- The first character stays where it is no blank. -/
theorem exists_trim_cons {c : Char} (hc : isBlank c = false) (s : List Char) :
    ∃ rest, trim (c :: s) = c :: rest ∧ rest.length ≤ s.length := by
  have hstart : trimStart (c :: s) = c :: s :=
    List.dropWhile_cons_of_neg (by rw [hc]; exact Bool.false_ne_true)
  have hstarts : trim (c :: s) <+: c :: s := by
    rw [trim, hstart]
    exact dropEndWhile_isPrefix isBlank (c :: s)
  cases htrim : trim (c :: s) with
  | nil =>
      rw [trim, hstart, trimEnd, dropEndWhile, List.reverse_eq_nil_iff,
        List.dropWhile_eq_nil_iff] at htrim
      have hblank := htrim c (List.mem_reverse.mpr List.mem_cons_self)
      rw [hc] at hblank
      contradiction
  | cons d rest =>
      rw [htrim, List.cons_prefix_cons] at hstarts
      exact ⟨rest, by rw [hstarts.1], hstarts.2.length_le⟩

/-- A text that begins and ends with characters that are not blank has nothing to trim. -/
theorem trim_cons_append_singleton {c d : Char} (hc : isBlank c = false) (hd : isBlank d = false)
    (s : List Char) : trim (c :: (s ++ [d])) = c :: (s ++ [d]) := by
  refine trim_eq_self (fun x hx => ?_) fun x hx => ?_
  · rw [← Option.some.inj hx, hc]
    exact Bool.false_ne_true
  · rw [← List.cons_append, List.getLast?_concat] at hx
    rw [← Option.some.inj hx, hd]
    exact Bool.false_ne_true

/-- A text without blanks has nothing to trim. -/
theorem trim_of_forall {s : List Char} (h : ∀ c ∈ s, isBlank c = false) : trim s = s := by
  have hplain (c : Char) (hc : c ∈ s) : ¬isBlank c = true := by
    rw [h c hc]
    exact Bool.false_ne_true
  exact trim_eq_self (fun c hc => hplain c (List.mem_of_head? hc))
    fun c hc => hplain c (List.mem_of_getLast? hc)

/-! ## Edges -/

/-- The text neither begins nor ends with a blank, and is not empty. -/
structure HasEdges (s : List Char) : Prop where
  first : ∃ c rest, s = c :: rest ∧ isBlank c = false
  last : ∃ front c, s = front ++ [c] ∧ isBlank c = false

namespace HasEdges

variable {t : List Char}

theorem ne_nil (h : HasEdges s) : s ≠ [] := by
  obtain ⟨c, rest, rfl, -⟩ := h.first
  exact List.cons_ne_nil c rest

theorem trim (h : HasEdges s) : Text.trim s = s := by
  obtain ⟨c, rest, hfirst, hc⟩ := h.first
  obtain ⟨front, d, hlast, hd⟩ := h.last
  refine trim_eq_self (fun x hx => ?_) fun x hx => ?_
  · rw [hfirst] at hx
    rw [← Option.some.inj hx, hc]
    exact Bool.false_ne_true
  · rw [hlast, List.getLast?_concat] at hx
    rw [← Option.some.inj hx, hd]
    exact Bool.false_ne_true

theorem of_forall (hne : s ≠ []) (h : ∀ c ∈ s, isBlank c = false) : HasEdges s := by
  constructor
  · obtain ⟨c, rest, rfl⟩ := List.exists_cons_of_ne_nil hne
    exact ⟨c, rest, rfl, h c List.mem_cons_self⟩
  · refine ⟨s.dropLast, s.getLast hne, (List.dropLast_append_getLast hne).symm, ?_⟩
    exact h _ (List.getLast_mem hne)

/-- Only the edges count. -/
theorem between (hs : HasEdges s) (ht : HasEdges t) (middle : List Char) :
    HasEdges (s ++ (middle ++ t)) := by
  obtain ⟨c, rest, rfl, hc⟩ := hs.first
  obtain ⟨front, d, rfl, hd⟩ := ht.last
  refine ⟨⟨c, _, rfl, hc⟩, c :: rest ++ middle ++ front, d, ?_, hd⟩
  simp only [List.append_assoc]

theorem append (hs : HasEdges s) (ht : HasEdges t) : HasEdges (s ++ t) := hs.between ht []

theorem singleton {c : Char} (hc : isBlank c = false) : HasEdges [c] :=
  ⟨⟨c, [], rfl, hc⟩, [], c, rfl, hc⟩

end HasEdges

end Folio.Text
