import Folio.Proofs.Text.Replace
import Folio.Rule.Split

/-!
# Folio.Proofs.Rule.Split

Cutting a rule loses nothing: the pieces, joined by the delimiter, are the text
again (`intercalate_splitTopLevel`).  Two texts with a delimiter between them
are cut there when nothing of the first is left open
(`splitTopLevel_append`), and what stands behind the last delimiter belongs to
the last piece (`splitFrom_append_right`).  No piece is cut further, nothing is
left open at a cut (`pieces_splitTopLevel`), and pieces of that kind are what a
text joined from them is cut into (`splitTopLevel_intercalate`).
-/

namespace Folio.Rule

variable {delim : List Char} {quotes : Bool}

/-- A character in front of the first piece stands in front of the joined text. -/
@[simp] theorem intercalate_consFirst (delim : List Char) (c : Char) (pieces : List (List Char)) :
    delim.intercalate (consFirst c pieces) = c :: delim.intercalate pieces := by
  rcases pieces with _ | ⟨piece, _ | ⟨next, rest⟩⟩
  · rfl
  · simp [consFirst]
  · simp [consFirst]

/-- There is always a piece. -/
@[simp] theorem splitFrom_ne_nil (n : Nesting) (skip : Nat) (s : List Char) :
    splitFrom delim quotes n skip s ≠ [] := by
  induction s generalizing n skip with
  | nil => simp [splitFrom]
  | cons c s ih =>
      cases skip with
      | succ skip => exact ih n skip
      | zero =>
          rw [splitFrom]
          split
          · simp
          · cases splitFrom delim quotes (n.step quotes c) 0 s with
            | nil => simp [consFirst]
            | cons piece rest => simp [consFirst]

/-- Nothing is cut at a character that begins no delimiter outside. -/
theorem splitFrom_cons {n : Nesting} {c : Char} {s : List Char}
    (h : ¬(n = .top ∧ isPlain quotes c ∧ delim.isPrefixOf (c :: s))) :
    splitFrom delim quotes n 0 (c :: s) =
      consFirst c (splitFrom delim quotes (n.step quotes c) 0 s) :=
  if_neg h

/-- A delimiter that begins outside cuts. -/
theorem splitFrom_delim {c : Char} {s : List Char} (hc : isPlain quotes c = true)
    (hstart : delim.isPrefixOf (c :: s) = true) :
    splitFrom delim quotes .top 0 (c :: s) =
      [] :: splitFrom delim quotes .top (delim.length - 1) s :=
  if_pos ⟨rfl, hc, hstart⟩

/-- What is skipped is not looked at. -/
@[simp] theorem splitFrom_skip (n : Nesting) (front s : List Char) :
    splitFrom delim quotes n front.length (front ++ s) = splitFrom delim quotes n 0 s := by
  induction front with
  | nil => rfl
  | cons c front ih => exact ih

/-- A text that begins with a delimiter. -/
theorem splitTopLevel_delim_append {d : Char} {ds : List Char} (hd : isPlain quotes d = true)
    (t : List Char) :
    splitTopLevel (d :: ds) quotes (d :: ds ++ t) = [] :: splitTopLevel (d :: ds) quotes t := by
  have hstart : (d :: ds).isPrefixOf (d :: (ds ++ t)) = true :=
    List.isPrefixOf_iff_prefix.mpr (List.prefix_append (d :: ds) t)
  have hrest : splitFrom (d :: ds) quotes .top ds.length (ds ++ t) =
      splitTopLevel (d :: ds) quotes t := splitFrom_skip .top ds t
  rw [splitTopLevel, List.cons_append, splitFrom_delim hd hstart, ← hrest]
  rfl

/-- What is skipped belongs to the delimiter before it. -/
theorem intercalate_splitFrom (hdelim : delim ≠ []) (n : Nesting) (skip : Nat) (s : List Char) :
    delim.intercalate (splitFrom delim quotes n skip s) = s.drop skip := by
  induction s generalizing n skip with
  | nil => simp [splitFrom]
  | cons c s ih =>
      cases skip with
      | succ skip => exact ih n skip
      | zero =>
          rw [splitFrom]
          split
          · next hfound =>
            obtain ⟨-, -, hprefix⟩ := hfound
            obtain ⟨rest, hrest⟩ := List.isPrefixOf_iff_prefix.mp hprefix
            obtain ⟨d, ds, rfl⟩ := List.exists_cons_of_ne_nil hdelim
            rw [List.cons_append] at hrest
            obtain ⟨rfl, rfl⟩ := List.cons.inj hrest
            have hjoin := ih n ds.length
            rw [List.drop_left] at hjoin
            rw [List.length_cons, Nat.add_sub_cancel,
              List.intercalate_cons_of_ne_nil (splitFrom_ne_nil n ds.length _), List.nil_append,
              hjoin]
            rfl
          · simp [ih]

/-- **Cutting loses nothing.**  The pieces of a text, joined by the delimiter, are
the text. -/
theorem intercalate_splitTopLevel (hdelim : delim ≠ []) (quotes : Bool) (s : List Char) :
    delim.intercalate (splitTopLevel delim quotes s) = s := by
  rw [splitTopLevel, intercalate_splitFrom hdelim, List.drop_zero]

/-- The pieces of a text stand in it. -/
theorem isInfix_of_mem_splitTopLevel (hdelim : delim ≠ []) {s piece : List Char}
    (h : piece ∈ splitTopLevel delim quotes s) : piece <:+: s := by
  have hjoined : piece <:+: delim.intercalate (splitTopLevel delim quotes s) :=
    Text.isInfix_intercalate h
  rwa [intercalate_splitTopLevel hdelim] at hjoined

/-! ## Joined texts -/

/-- The nesting behind a text; the next `skip` characters belong to a delimiter
that has been found. -/
def nestingAfter (delim : List Char) (quotes : Bool) (n : Nesting) (skip : Nat) :
    List Char → Nesting
  | [] => n
  | c :: cs =>
    match skip with
    | skip + 1 => nestingAfter delim quotes n skip cs
    | 0 =>
      if n = .top ∧ isPlain quotes c ∧ delim.isPrefixOf (c :: cs) then
        nestingAfter delim quotes n (delim.length - 1) cs
      else nestingAfter delim quotes (n.step quotes c) 0 cs

/-- No part of the delimiter but the whole of it stands at the end of the
text, so that a delimiter behind the text is found where it begins. -/
def EndsApart (delim s : List Char) : Prop :=
  ∀ part, part ≠ [] → part <:+ s → part <+: delim → part = delim

/-- What ends apart from a delimiter does so from further on. -/
theorem EndsApart.tail {c : Char} {s : List Char} (h : EndsApart delim (c :: s)) :
    EndsApart delim s :=
  fun part hne hsuffix => h part hne (hsuffix.trans (List.suffix_cons c s))

/-- No delimiter begins in such a text and ends behind it. -/
theorem EndsApart.apart {s : List Char} (h : EndsApart delim s) (t : List Char) :
    Text.Apart delim s t := by
  intro left right hdelim hleft hright hsuffix _
  have hwhole := h left hleft hsuffix ⟨right, hdelim.symm⟩
  rw [hwhole] at hdelim
  exact hright (List.self_eq_append_right.mp hdelim)

/-- A text that ends apart from the delimiter has it in front already, if it has
it with the delimiter behind. -/
theorem EndsApart.isPrefix_append_iff {c : Char} {s t : List Char}
    (h : EndsApart delim (c :: s)) : delim <+: c :: s ++ (delim ++ t) ↔ delim <+: c :: s :=
  ⟨(h.apart (delim ++ t)).isPrefix_of_append (List.cons_ne_nil c s),
    fun hstart => hstart.trans (List.prefix_append _ _)⟩

/-- A text that does not end with the character of which the delimiter consists
ends apart from it. -/
theorem endsApart_of_getLast?_ne {c : Char} {s : List Char} (hdelim : ∀ x ∈ delim, x = c)
    (h : s.getLast? ≠ some c) : EndsApart delim s := by
  rintro part hne ⟨front, rfl⟩ hstart
  obtain ⟨init, last, rfl⟩ := List.eq_nil_or_concat part |>.resolve_left hne
  have hlast : last = c := hdelim last (hstart.subset (by simp))
  rw [List.concat_eq_append, ← List.append_assoc, List.getLast?_concat, hlast] at h
  contradiction

/-- Only the first piece gets the character. -/
theorem consFirst_append (c : Char) {pieces : List (List Char)} (h : pieces ≠ [])
    (others : List (List Char)) :
    consFirst c (pieces ++ others) = consFirst c pieces ++ others := by
  obtain ⟨piece, rest, rfl⟩ := List.exists_cons_of_ne_nil h
  rfl

theorem length_le_of_isPrefixOf {c : Char} {s : List Char}
    (h : delim.isPrefixOf (c :: s) = true) : delim.length - 1 ≤ s.length := by
  have hlength := (List.isPrefixOf_iff_prefix.mp h).length_le
  rw [List.length_cons] at hlength
  omega

/-- Where the text before it is closed, a delimiter cuts, and what is behind it is cut as a text
of its own. -/
theorem splitFrom_append {d : Char} {ds s t : List Char} {n : Nesting} {skip : Nat}
    (hd : isPlain quotes d = true) (hskip : skip ≤ s.length)
    (hclosed : nestingAfter (d :: ds) quotes n skip s = .top) (hapart : EndsApart (d :: ds) s) :
    splitFrom (d :: ds) quotes n skip (s ++ (d :: ds ++ t)) =
      splitFrom (d :: ds) quotes n skip s ++ splitTopLevel (d :: ds) quotes t := by
  induction s generalizing n skip with
  | nil =>
      obtain rfl : skip = 0 := Nat.le_zero.mp hskip
      obtain rfl : n = .top := hclosed
      exact splitTopLevel_delim_append hd t
  | cons c s ih =>
      cases skip with
      | succ skip => exact ih (Nat.le_of_succ_le_succ hskip) hclosed hapart.tail
      | zero =>
          have hsame : (d :: ds).isPrefixOf (c :: (s ++ (d :: ds ++ t))) =
              (d :: ds).isPrefixOf (c :: s) := by
            rw [Bool.eq_iff_iff, List.isPrefixOf_iff_prefix, List.isPrefixOf_iff_prefix]
            exact hapart.isPrefix_append_iff
          rw [nestingAfter] at hclosed
          rw [List.cons_append, splitFrom, splitFrom, hsame]
          by_cases hcut : n = .top ∧ isPlain quotes c = true ∧ (d :: ds).isPrefixOf (c :: s) = true
          · rw [if_pos hcut] at hclosed ⊢
            rw [if_pos hcut, ih (length_le_of_isPrefixOf hcut.2.2) hclosed hapart.tail]
            rfl
          · rw [if_neg hcut] at hclosed ⊢
            rw [if_neg hcut, ih (Nat.zero_le _) hclosed hapart.tail,
              consFirst_append c (splitFrom_ne_nil _ _ _)]

/-- **Cutting joined texts.**  Where nothing of the first text is open at its end,
and its end is no beginning of the delimiter, the pieces of two joined texts
are those of the first and those of the second. -/
theorem splitTopLevel_append {d : Char} {ds s : List Char} (hd : isPlain quotes d = true)
    (hclosed : nestingAfter (d :: ds) quotes .top 0 s = .top) (hapart : EndsApart (d :: ds) s)
    (t : List Char) :
    splitTopLevel (d :: ds) quotes (s ++ (d :: ds ++ t)) =
      splitTopLevel (d :: ds) quotes s ++ splitTopLevel (d :: ds) quotes t :=
  splitFrom_append hd (Nat.zero_le _) hclosed hapart

/-! ## Ends without the delimiter -/

/-- What has nothing of the delimiter does not complete it. -/
theorem isPrefix_append_iff_of_not_mem {s rest : List Char} (hrest : ∀ c ∈ rest, c ∉ delim) :
    delim <+: s ++ rest ↔ delim <+: s := by
  constructor
  · intro hstart
    rcases List.prefix_or_prefix_of_prefix hstart (List.prefix_append s rest) with hle | hle
    · exact hle
    · obtain ⟨more, rfl⟩ := hle
      rw [List.prefix_append_right_inj] at hstart
      cases more with
      | nil => rw [List.append_nil]
      | cons c more =>
          have hc : c ∈ rest := hstart.subset List.mem_cons_self
          exact absurd (List.mem_append_right s List.mem_cons_self) (hrest c hc)
  · exact fun hstart => hstart.trans (List.prefix_append s rest)

/-- A text that has nothing of the delimiter is one piece. -/
theorem splitFrom_of_not_mem {rest : List Char} (hdelim : delim ≠ [])
    (hrest : ∀ c ∈ rest, c ∉ delim) (n : Nesting) :
    splitFrom delim quotes n 0 rest = [rest] := by
  induction rest generalizing n with
  | nil => rfl
  | cons c rest ih =>
      obtain ⟨d, ds, rfl⟩ := List.exists_cons_of_ne_nil hdelim
      obtain ⟨hc, hmore⟩ := List.forall_mem_cons.mp hrest
      rw [splitFrom_cons, ih hmore]
      · rfl
      · rintro ⟨-, -, hstart⟩
        rw [List.isPrefixOf_iff_prefix, List.cons_prefix_cons] at hstart
        exact hc (hstart.1 ▸ List.mem_cons_self)

/-- What has nothing of the delimiter belongs to the piece that it stands
behind. -/
theorem splitFrom_append_right {rest : List Char} (hdelim : delim ≠ [])
    (hrest : ∀ c ∈ rest, c ∉ delim) {s : List Char} {n : Nesting} {skip : Nat}
    (hskip : skip ≤ s.length) :
    ∃ pieces last, splitFrom delim quotes n skip s = pieces ++ [last] ∧
      splitFrom delim quotes n skip (s ++ rest) = pieces ++ [last ++ rest] := by
  induction s generalizing n skip with
  | nil =>
      obtain rfl : skip = 0 := Nat.le_zero.mp hskip
      exact ⟨[], [], rfl, splitFrom_of_not_mem hdelim hrest n⟩
  | cons c s ih =>
      cases skip with
      | succ skip => exact ih (Nat.le_of_succ_le_succ hskip)
      | zero =>
          have hsame : delim.isPrefixOf (c :: (s ++ rest)) = delim.isPrefixOf (c :: s) := by
            rw [Bool.eq_iff_iff, List.isPrefixOf_iff_prefix, List.isPrefixOf_iff_prefix]
            exact isPrefix_append_iff_of_not_mem (s := c :: s) hrest
          rw [List.cons_append, splitFrom, splitFrom, hsame]
          split
          · next hcut =>
            obtain ⟨pieces, last, hs, happend⟩ := ih (length_le_of_isPrefixOf hcut.2.2)
            exact ⟨[] :: pieces, last, by rw [hs]; rfl, by rw [happend]; rfl⟩
          · obtain ⟨pieces, last, hs, happend⟩ := ih (n := n.step quotes c) (Nat.zero_le _)
            rw [hs, happend]
            cases pieces with
            | nil => exact ⟨[], c :: last, rfl, rfl⟩
            | cons piece pieces => exact ⟨(c :: piece) :: pieces, last, rfl, rfl⟩

/-! ## Nesting -/

/-- Every bracket that the text opens is closed in it. -/
def IsClosed (s : List Char) : Prop := s.foldl (Nesting.step false) .top = .top

instance (s : List Char) : Decidable (IsClosed s) :=
  inferInstanceAs (Decidable (_ = _))

/-- Plain characters stay outside. -/
theorem step_of_isPlain {c : Char} (h : isPlain quotes c = true) :
    Nesting.top.step quotes c = .top := by
  simp only [isPlain, Bool.not_eq_true', Bool.or_eq_false_iff, beq_eq_false_iff_ne] at h
  obtain ⟨⟨⟨⟨hsquare, hround⟩, hsquareEnd⟩, hroundEnd⟩, hquote⟩ := h
  simp [Nesting.step, Nesting.top, hsquare, hround, hsquareEnd, hroundEnd, hquote]

/-- A delimiter that has neither brackets nor quotes does not change the
nesting, so that it need not be told from other text. -/
theorem nestingAfter_eq_foldl (hplain : ∀ c ∈ delim, isPlain quotes c = true) {n : Nesting}
    {skip : Nat} {s : List Char}
    (hskip : skip = 0 ∨ n = .top ∧ ∀ c ∈ s.take skip, isPlain quotes c = true) :
    nestingAfter delim quotes n skip s = s.foldl (Nesting.step quotes) n := by
  induction s generalizing n skip with
  | nil => rfl
  | cons c s ih =>
      cases skip with
      | succ skip =>
          rcases hskip with hzero | ⟨rfl, htake⟩
          · contradiction
          · obtain ⟨hc, htail⟩ := List.forall_mem_cons.mp htake
            rw [nestingAfter, List.foldl_cons, step_of_isPlain hc]
            exact ih (Or.inr ⟨rfl, htail⟩)
      | zero =>
          rw [nestingAfter, List.foldl_cons]
          split
          · next hcut =>
            obtain ⟨rfl, hc, hstart⟩ := hcut
            obtain ⟨rest, hrest⟩ := List.isPrefixOf_iff_prefix.mp hstart
            rw [step_of_isPlain hc]
            refine ih (Or.inr ⟨rfl, ?_⟩)
            have htake : (c :: s).take delim.length = delim := by rw [← hrest, List.take_left]
            intro x hx
            apply hplain
            rw [← htake]
            cases delim with
            | nil => simp at hx
            | cons d ds => exact List.mem_cons_of_mem c hx
          · exact ih (Or.inl rfl)

/-- With delimiters of plain characters a text is left outside when it is closed. -/
theorem nestingAfter_eq_top_iff (hplain : ∀ c ∈ delim, isPlain false c = true) {s : List Char} :
    nestingAfter delim false .top 0 s = .top ↔ IsClosed s := by
  rw [nestingAfter_eq_foldl hplain (Or.inl rfl), IsClosed]

/-- Without quoted spans no mark opens one. -/
theorem quote_step {n : Nesting} (h : n.quote = none) (c : Char) :
    (n.step false c).quote = none := by
  simp only [Nesting.step, h, Bool.false_and]
  split
  · contradiction
  · split
    · rfl
    · split
      · rfl
      · exact h

theorem quote_foldl_step {n : Nesting} (h : n.quote = none) (s : List Char) :
    (s.foldl (Nesting.step false) n).quote = none := by
  induction s generalizing n with
  | nil => exact h
  | cons c s ih => exact ih (quote_step h c)

/-- Text without brackets changes no nesting. -/
theorem foldl_step_of_isPlain {n : Nesting} (h : n.quote = none) {s : List Char}
    (hs : ∀ c ∈ s, isPlain false c = true) : s.foldl (Nesting.step false) n = n := by
  induction s with
  | nil => rfl
  | cons c s ih =>
      obtain ⟨hc, hs⟩ := List.forall_mem_cons.mp hs
      simp only [isPlain, Bool.false_and, Bool.or_false, Bool.not_eq_true', Bool.or_eq_false_iff,
        beq_eq_false_iff_ne] at hc
      have hstep : n.step false c = n := by simp [Nesting.step, h, hc]
      rw [List.foldl_cons, hstep, ih hs]

/-- Plain characters behind a text leave it closed. -/
theorem isClosed_append_iff {rest : List Char} (h : ∀ c ∈ rest, isPlain false c = true)
    (s : List Char) : IsClosed (s ++ rest) ↔ IsClosed s := by
  rw [IsClosed, IsClosed, List.foldl_append, foldl_step_of_isPlain (quote_foldl_step rfl s) h]

/-- Plain characters in front leave it closed. -/
theorem isClosed_append_left_iff {lead : List Char}
    (h : ∀ c ∈ lead, isPlain false c = true) (s : List Char) :
    IsClosed (lead ++ s) ↔ IsClosed s := by
  rw [IsClosed, IsClosed, List.foldl_append, foldl_step_of_isPlain rfl h]

/-! ## Pieces -/

/-- The text is not cut. -/
def IsPiece (delim : List Char) (quotes : Bool) (s : List Char) : Prop :=
  splitTopLevel delim quotes s = [s]

/-- A text that lacks the delimiter is not cut. -/
theorem isPiece_of_not_isInfix {s : List Char} (hdelim : delim ≠ []) (h : ¬delim <:+: s) :
    IsPiece delim quotes s := by
  have hjoined := intercalate_splitTopLevel hdelim quotes s
  obtain ⟨piece, rest, hpieces⟩ := List.exists_cons_of_ne_nil
    (l := splitTopLevel delim quotes s) (splitFrom_ne_nil .top 0 s)
  rw [hpieces] at hjoined
  cases rest with
  | nil => rw [IsPiece, hpieces, ← hjoined, List.intercalate_singleton]
  | cons next rest =>
      refine absurd ?_ h
      rw [← hjoined, List.intercalate_cons_cons]
      exact List.infix_append piece delim _

/-- What has nothing of the delimiter makes no difference behind a text. -/
theorem isPiece_append_iff {piece rest : List Char} (hdelim : delim ≠ [])
    (hrest : ∀ c ∈ rest, c ∉ delim) :
    IsPiece delim quotes (piece ++ rest) ↔ IsPiece delim quotes piece := by
  obtain ⟨pieces, last, hpiece, happend⟩ : ∃ pieces last,
      splitTopLevel delim quotes piece = pieces ++ [last] ∧
        splitTopLevel delim quotes (piece ++ rest) = pieces ++ [last ++ rest] :=
    splitFrom_append_right hdelim hrest (Nat.zero_le piece.length)
  rw [IsPiece, IsPiece, hpiece, happend, List.append_eq_singleton_iff,
    List.append_eq_singleton_iff]
  simp

/-- The pieces of a text from a place of the scan on: none is cut, and nothing is
open behind any but the last. -/
inductive Pieces (delim : List Char) (quotes : Bool) : Nesting → List (List Char) → Prop
  | last {n : Nesting} {piece : List Char}
      (uncut : splitFrom delim quotes n 0 piece = [piece]) : Pieces delim quotes n [piece]
  | cons {n : Nesting} {piece : List Char} {rest : List (List Char)}
      (uncut : splitFrom delim quotes n 0 piece = [piece])
      (closed : nestingAfter delim quotes n 0 piece = .top)
      (onward : Pieces delim quotes .top rest) : Pieces delim quotes n (piece :: rest)

/-- A character at which nothing is cut is put in front of the first piece. -/
theorem Pieces.consFirst {n : Nesting} {c : Char} {piece : List Char} {rest : List (List Char)}
    (hcut : ¬(n = .top ∧ isPlain quotes c ∧ delim.isPrefixOf (c :: piece)))
    (h : Pieces delim quotes (n.step quotes c) (piece :: rest)) :
    Pieces delim quotes n ((c :: piece) :: rest) := by
  have huncut (h : splitFrom delim quotes (n.step quotes c) 0 piece = [piece]) :
      splitFrom delim quotes n 0 (c :: piece) = [c :: piece] := by
    rw [splitFrom_cons hcut, h]
    rfl
  cases h with
  | last uncut => exact .last (huncut uncut)
  | cons uncut closed onward =>
      refine .cons (huncut uncut) ?_ onward
      rw [nestingAfter, if_neg hcut, closed]

/-- The pieces are those between the delimiters, by induction on the text. -/
theorem exists_pieces {n : Nesting} {skip : Nat} {s : List Char}
    (hskip : skip = 0 ∨ skip ≤ s.length ∧ n = .top) :
    ∃ piece rest, splitFrom delim quotes n skip s = piece :: rest ∧ piece <+: s.drop skip ∧
      Pieces delim quotes n (piece :: rest) := by
  induction s generalizing n skip with
  | nil => exact ⟨[], [], rfl, List.nil_prefix, .last rfl⟩
  | cons c s ih =>
      cases skip with
      | succ skip =>
          rcases hskip with hzero | ⟨hlength, htop⟩
          · contradiction
          · exact ih (Or.inr ⟨Nat.le_of_succ_le_succ hlength, htop⟩)
      | zero =>
          rw [splitFrom]
          split
          · next hcut =>
            obtain ⟨piece, rest, hpieces, -, h⟩ :=
              ih (Or.inr ⟨length_le_of_isPrefixOf hcut.2.2, hcut.1⟩)
            refine ⟨[], _, rfl, List.nil_prefix, .cons rfl hcut.1 ?_⟩
            rw [hpieces, ← hcut.1]
            exact h
          · next hcut =>
            obtain ⟨piece, rest, hpieces, hpiece, h⟩ := ih (n := n.step quotes c) (Or.inl rfl)
            have hstart : c :: piece <+: c :: s := List.cons_prefix_cons.mpr ⟨rfl, hpiece⟩
            refine ⟨c :: piece, rest, by rw [hpieces]; rfl, hstart, h.consFirst ?_⟩
            rintro ⟨htop, hplain, hfound⟩
            rw [List.isPrefixOf_iff_prefix] at hfound
            exact hcut ⟨htop, hplain, List.isPrefixOf_iff_prefix.mpr (hfound.trans hstart)⟩

/-- Pieces may be changed into others that are not cut, and closed where they
were. -/
theorem Pieces.map {f : List Char → List Char} {pieces : List (List Char)}
    (h : Pieces delim quotes .top pieces)
    (huncut : ∀ piece ∈ pieces, IsPiece delim quotes piece → IsPiece delim quotes (f piece))
    (hclosed : ∀ piece ∈ pieces, nestingAfter delim quotes .top 0 piece = .top →
      nestingAfter delim quotes .top 0 (f piece) = .top) :
    Pieces delim quotes .top (pieces.map f) := by
  generalize hn : Nesting.top = n at h
  induction h with
  | last uncut =>
      subst hn
      exact .last (huncut _ List.mem_cons_self uncut)
  | cons uncut closed onward ih =>
      subst hn
      obtain ⟨hpiece, hrest⟩ := List.forall_mem_cons.mp huncut
      obtain ⟨hend, hends⟩ := List.forall_mem_cons.mp hclosed
      exact .cons (hpiece uncut) (hend closed) (ih hrest hends rfl)

/-- **Pieces.**  No piece of a text is cut further, and nothing is open behind any but
the last. -/
theorem pieces_splitTopLevel (s : List Char) :
    Pieces delim quotes .top (splitTopLevel delim quotes s) := by
  have hexists : ∃ piece rest, splitFrom delim quotes .top 0 s = piece :: rest ∧
      piece <+: s.drop 0 ∧ Pieces delim quotes .top (piece :: rest) := exists_pieces (Or.inl rfl)
  obtain ⟨piece, rest, hpieces, -, h⟩ := hexists
  rw [splitTopLevel, hpieces]
  exact h

/-- Pieces that end apart from the delimiter are what the text joined from them is
cut into. -/
theorem splitTopLevel_intercalate {d : Char} {ds : List Char} (hd : isPlain quotes d = true)
    {pieces : List (List Char)} (h : Pieces (d :: ds) quotes .top pieces)
    (hapart : ∀ piece ∈ pieces.dropLast, EndsApart (d :: ds) piece) :
    splitTopLevel (d :: ds) quotes ((d :: ds).intercalate pieces) = pieces := by
  generalize hn : Nesting.top = n at h
  induction h with
  | last uncut =>
      subst hn
      rw [List.intercalate_singleton]
      exact uncut
  | @cons n piece rest uncut closed onward ih =>
      subst hn
      obtain ⟨next, more, rfl⟩ : ∃ next more, rest = next :: more := by
        cases onward with
        | last uncut' => exact ⟨_, _, rfl⟩
        | cons uncut' closed' onward' => exact ⟨_, _, rfl⟩
      rw [List.dropLast_cons_cons] at hapart
      obtain ⟨hfirst, hrest⟩ := List.forall_mem_cons.mp hapart
      have hcut : splitTopLevel (d :: ds) quotes piece = [piece] := uncut
      rw [List.intercalate_cons_cons, List.append_assoc, splitTopLevel_append hd closed hfirst,
        ih hrest rfl, hcut]
      rfl

end Folio.Rule
