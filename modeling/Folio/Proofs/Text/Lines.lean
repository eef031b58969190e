import Folio.Proofs.Text.Replace

/-!
# Folio.Proofs.Text.Lines

The lines of a text.  Lines that are joined by line feeds are the lines of the
joined text (`lines_intercalate`), and lines are all there is of a text but for
what ends them (`flatten_lines_sublist`).  A change of characters that leaves
the ends of lines alone can be made before or after a text is cut into lines
(`lines_map`).
-/

namespace Folio.Text

open scoped List

variable {s : List Char}

/-! ## Pieces -/

/-- Texts are cut at a class of characters as lists are. -/
theorem splitWhere_eq_splitOnP (p : Char → Bool) (s : List Char) :
    splitWhere p s = s.splitOnP p := by
  induction s with
  | nil => simp [splitWhere]
  | cons c s ih =>
      obtain ⟨piece, rest, hpieces⟩ := List.exists_cons_of_ne_nil (List.splitOnP_ne_nil p s)
      simp [splitWhere, List.splitOnP_cons_eq_if_modifyHead, ih, hpieces]

@[simp] theorem splitWhere_ne_nil (p : Char → Bool) (s : List Char) : splitWhere p s ≠ [] := by
  rw [splitWhere_eq_splitOnP]
  exact List.splitOnP_ne_nil p s

/-- No piece of a text holds a character at which the text is cut. -/
theorem eq_false_of_mem_splitWhere {p : Char → Bool} {piece : List Char}
    (h : piece ∈ splitWhere p s) : ∀ c ∈ piece, p c = false := by
  induction s generalizing piece with
  | nil =>
      simp only [splitWhere, List.mem_singleton] at h
      simp [h]
  | cons c s ih =>
      obtain ⟨first, rest, hpieces⟩ := List.exists_cons_of_ne_nil (splitWhere_ne_nil p s)
      rw [hpieces] at ih
      by_cases hc : p c = true
      · simp only [splitWhere, hc, if_true, hpieces] at h
        rcases List.mem_cons.mp h with rfl | h
        · simp
        · exact ih h
      · simp only [splitWhere, hc, hpieces] at h
        rcases List.mem_cons.mp h with rfl | h
        · have hfirst := ih List.mem_cons_self
          simpa [hc] using hfirst
        · exact ih (List.mem_cons_of_mem first h)

/-- Where a change of characters leaves those alone at which a text is cut, the
pieces are changed. -/
theorem splitWhere_map {p : Char → Bool} {f : Char → Char} (hf : ∀ c, p (f c) = p c)
    (s : List Char) : splitWhere p (s.map f) = (splitWhere p s).map (·.map f) := by
  induction s with
  | nil => rfl
  | cons c s ih =>
      obtain ⟨piece, rest, hpieces⟩ := List.exists_cons_of_ne_nil (splitWhere_ne_nil p s)
      rw [hpieces] at ih
      by_cases hc : p c = true
      · simp [splitWhere, hf, hc, ih, hpieces]
      · simp [splitWhere, hf, hc, ih, hpieces]

/-! ## Lines -/

/-- The lines of a text are its pieces between line feeds; the last is none when it is
empty. -/
theorem lines_eq {init : List (List Char)} {last : List Char}
    (h : splitWhere (· == '\n') s = init ++ [last]) :
    lines s = init.map stripReturn ++ (if last.isEmpty then [] else [last]) := by
  simp [lines, h]

theorem exists_lines_eq (s : List Char) :
    ∃ init last, splitWhere (· == '\n') s = init ++ [last] ∧
      lines s = init.map stripReturn ++ (if last.isEmpty then [] else [last]) := by
  obtain ⟨init, last, hpieces⟩ :=
    (List.eq_nil_or_concat (splitWhere (· == '\n') s)).resolve_left (splitWhere_ne_nil _ s)
  rw [List.concat_eq_append] at hpieces
  exact ⟨init, last, hpieces, lines_eq hpieces⟩

theorem stripReturn_isPrefix (line : List Char) : stripReturn line <+: line := by
  unfold stripReturn
  split
  · exact List.dropLast_prefix line
  · exact List.prefix_rfl

theorem stripReturn_of_getLast?_ne {line : List Char} (h : line.getLast? ≠ some '\r') :
    stripReturn line = line := by
  unfold stripReturn
  split
  · contradiction
  · rfl

/-- A line is a piece of the text without what ends it. -/
theorem exists_piece_of_mem_lines {line : List Char} (h : line ∈ lines s) :
    ∃ piece ∈ splitWhere (· == '\n') s, line <+: piece := by
  obtain ⟨init, last, hpieces, hlines⟩ := exists_lines_eq s
  rw [hlines, List.mem_append] at h
  rw [hpieces]
  rcases h with h | h
  · obtain ⟨piece, hpiece, rfl⟩ := List.mem_map.mp h
    exact ⟨piece, List.mem_append_left [last] hpiece, stripReturn_isPrefix piece⟩
  · have hline : line = last := by
      split at h
      · contradiction
      · exact List.mem_singleton.mp h
    exact ⟨last, by simp, hline ▸ List.prefix_rfl⟩

/-- A line holds no line feed. -/
theorem not_mem_of_mem_lines {line : List Char} (h : line ∈ lines s) : '\n' ∉ line := by
  obtain ⟨piece, hpiece, hline⟩ := exists_piece_of_mem_lines h
  intro hfeed
  have hnot := eq_false_of_mem_splitWhere hpiece '\n' (hline.subset hfeed)
  simp at hnot

/-- **Joined lines.**  Lines that are joined by line feeds are the lines of the joined
text, when none is empty and none ends as if a line feed that follows belonged to
it. -/
theorem lines_intercalate {list : List (List Char)}
    (h : ∀ line ∈ list, line ≠ [] ∧ '\n' ∉ line ∧ line.getLast? ≠ some '\r') :
    lines (['\n'].intercalate list) = list := by
  rcases List.eq_nil_or_concat list with rfl | ⟨init, last, rfl⟩
  · rfl
  · rw [List.concat_eq_append] at h ⊢
    have hpieces : splitWhere (· == '\n') (['\n'].intercalate (init ++ [last])) =
        init ++ [last] := by
      rw [splitWhere_eq_splitOnP]
      exact List.splitOn_intercalate '\n' (fun line hline => (h line hline).2.1) (by simp)
    have hinit : init.map stripReturn = init := by
      calc init.map stripReturn
        _ = init.map id := List.map_congr_left fun line hline =>
          stripReturn_of_getLast?_ne (h line (List.mem_append_left [last] hline)).2.2
        _ = init := List.map_id init
    have hlast : last ≠ [] := (h last (by simp)).1
    rw [lines_eq hpieces, hinit]
    simp [hlast]

/-- What is joined is a part of the joined text. -/
theorem flatten_sublist_intercalate (delim : List Char) (pieces : List (List Char)) :
    pieces.flatten <+ delim.intercalate pieces := by
  induction pieces with
  | nil => simp
  | cons piece pieces ih =>
      by_cases hmore : pieces = []
      · simp [hmore]
      · rw [List.intercalate_cons_of_ne_nil hmore, List.flatten_cons, List.append_assoc]
        exact (ih.trans (List.sublist_append_right delim _)).append_left piece

theorem flatten_map_sublist {f : List Char → List Char} (hf : ∀ piece, f piece <+ piece)
    (pieces : List (List Char)) : (pieces.map f).flatten <+ pieces.flatten := by
  induction pieces with
  | nil => simp
  | cons piece pieces ih =>
      rw [List.map_cons, List.flatten_cons, List.flatten_cons]
      exact (hf piece).append ih

/-- **Nothing but lines.**  The lines of a text are the text without what ends them. -/
theorem flatten_lines_sublist (s : List Char) : (lines s).flatten <+ s := by
  obtain ⟨init, last, hpieces, hlines⟩ := exists_lines_eq s
  have hjoined : ['\n'].intercalate (init ++ [last]) = s := by
    rw [← hpieces, splitWhere_eq_splitOnP]
    exact List.intercalate_splitOn '\n'
  have hinit := flatten_map_sublist (fun line => (stripReturn_isPrefix line).sublist) init
  have hlast : (if last.isEmpty then [] else [last]).flatten <+ last := by
    split <;> simp
  calc (lines s).flatten
    _ = (init.map stripReturn).flatten ++ (if last.isEmpty then [] else [last]).flatten := by
      rw [hlines, List.flatten_append]
    _ <+ init.flatten ++ last := hinit.append hlast
    _ = (init ++ [last]).flatten := by simp
    _ <+ ['\n'].intercalate (init ++ [last]) := flatten_sublist_intercalate _ _
    _ = s := hjoined

theorem stripReturn_map {f : Char → Char} (hreturn : ∀ c, f c = '\r' ↔ c = '\r')
    (line : List Char) : stripReturn (line.map f) = (stripReturn line).map f := by
  by_cases hlast : line.getLast? = some '\r'
  · have hchanged : (line.map f).getLast? = some '\r' := by
      simp [List.getLast?_map, hlast, (hreturn '\r').mpr rfl]
    simp [stripReturn, hlast, hchanged]
  · have hchanged : (line.map f).getLast? ≠ some '\r' := by
      simpa [List.getLast?_map, Option.map_eq_some_iff, hreturn] using hlast
    rw [stripReturn_of_getLast?_ne hlast, stripReturn_of_getLast?_ne hchanged]

/-- **Changed lines.**  A change of characters that leaves the ends of lines alone
changes the lines. -/
theorem lines_map {f : Char → Char} (hfeed : ∀ c, f c = '\n' ↔ c = '\n')
    (hreturn : ∀ c, f c = '\r' ↔ c = '\r') (s : List Char) :
    lines (s.map f) = (lines s).map (·.map f) := by
  obtain ⟨init, last, hpieces, hlines⟩ := exists_lines_eq s
  have hsame (c : Char) : (f c == '\n') = (c == '\n') := by
    simp [hfeed]
  have hchanged : splitWhere (· == '\n') (s.map f) = init.map (·.map f) ++ [last.map f] := by
    rw [splitWhere_map hsame, hpieces, List.map_append, List.map_singleton]
  have hinit : (init.map (·.map f)).map stripReturn = (init.map stripReturn).map (·.map f) := by
    simp [stripReturn_map hreturn]
  rw [lines_eq hchanged, hlines, hinit, List.map_append]
  by_cases hlast : last = []
  · simp [hlast]
  · simp [hlast]

end Folio.Text
