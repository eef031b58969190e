import Folio.Proofs.Markup.Reference
import Folio.Proofs.Text.Lines
import Folio.Typeset
import Mathlib.Data.List.Flatten

/-!
# Folio.Proofs.Typeset

Typeset text.  Whatever markup and whatever replacements it comes from, it is
made of indented lines, none of them blank (`isTypeset_typeset`).  Nothing of a
text is lost or changed on the way from its written form: the typeset text has
its lines (`typeset_text`).

Both follow the stages of typesetting.  Line ends and blocks are exchanged, and
a text in which no tag begins is left as it is (`exchange_eq_self`); tags are
left out until no bracket that opens has one behind it that closes
(`hasNoTag_stripTags`), and what is left is set in lines, which adds nothing but
indents and line feeds (`filter_setLines`).
-/

namespace Folio.Typeset

open Folio.Text
open scoped List

variable {s : List Char}

/-! ## Exchanged pieces -/

section Exchange

variable {piece? : List Char → Option Nat} {sub : List Char}

/-- What stands in a text after an exchange stood in it before, or in what pieces are
exchanged for. -/
theorem mem_of_mem_exchange {c : Char} (h : c ∈ exchange piece? sub s) : c ∈ sub ∨ c ∈ s := by
  have hfrom (skip : Nat) (s : List Char) (h : c ∈ exchangeFrom piece? sub skip s) :
      c ∈ sub ∨ c ∈ s := by
    induction s generalizing skip with
    | nil => simp [exchangeFrom] at h
    | cons d s ih =>
        cases skip with
        | succ skip => exact (ih skip h).imp_right (List.mem_cons_of_mem d)
        | zero =>
            rw [exchangeFrom] at h
            split at h
            · next n _ =>
              rcases List.mem_append.mp h with h | h
              · exact Or.inl h
              · exact (ih n h).imp_right (List.mem_cons_of_mem d)
            · rcases List.mem_cons.mp h with rfl | h
              · exact Or.inr List.mem_cons_self
              · exact (ih 0 h).imp_right (List.mem_cons_of_mem d)
  exact hfrom 0 s h

/-- A text in which no piece begins stays as it is. -/
theorem exchange_eq_self (h : ∀ t, t <:+ s → piece? t = none) : exchange piece? sub s = s := by
  induction s with
  | nil => rfl
  | cons c s ih =>
      have hrest : exchangeFrom piece? sub 0 s = s :=
        ih fun t ht => h t (ht.trans (List.suffix_cons c s))
      rw [exchange, exchangeFrom, h (c :: s) List.suffix_rfl, hrest]

end Exchange

theorem head?_ne_of_not_mem (h : '<' ∉ s) {t : List Char} (ht : t <:+ s) : t.head? ≠ some '<' :=
  fun hhead => h (ht.subset (List.mem_of_head? hhead))

/-- Line ends begin with a bracket. -/
theorem lineEnd?_eq_none (h : s.head? ≠ some '<') : lineEnd? s = none := by
  simp [lineEnd?, h]

/-- Blocks begin with a bracket. -/
theorem block?_eq_none (h : s.head? ≠ some '<') : block? s = none := by
  simp [block?, h]

/-! ## Tags -/

/-- No bracket that opens a tag has one behind it that closes it. -/
def HasNoTag (s : List Char) : Prop := ∀ front back, s = front ++ '<' :: back → '>' ∉ back

/-- No tag is left when no bracket that opens one stands before one that closes it. -/
theorem hasNoTag_iff : HasNoTag s ↔ ¬['<', '>'] <+ s := by
  constructor
  · intro h hsub
    obtain ⟨first, second, rfl, hopen, hclose⟩ := List.cons_sublist_iff.mp hsub
    obtain ⟨front, back, rfl⟩ := List.append_of_mem hopen
    refine h front (back ++ second) (by simp) ?_
    exact List.mem_append_right back (List.singleton_sublist.mp hclose)
  · rintro h front back rfl hclose
    refine h (List.Sublist.trans ?_ (List.sublist_append_right front _))
    exact (List.singleton_sublist.mpr hclose).cons_cons '<'

/-- A character that opens no tag makes none. -/
theorem HasNoTag.cons {c : Char} (hc : c ≠ '<') (h : HasNoTag s) : HasNoTag (c :: s) := by
  intro front back hs
  cases front with
  | nil => exact absurd (List.cons.inj hs).1 hc
  | cons d front => exact h front back (List.cons.inj hs).2

/-- A tag is stripped up to the first bracket that closes it. -/
theorem stripTags_closed {before after : List Char} (h : cut? ['>'] s = some (before, after)) :
    stripTags ('<' :: s) = stripTags after := by
  rw [stripTags, if_pos rfl]
  split
  · next hcut =>
    rw [h] at hcut
    cases hcut
    rfl
  · next hcut =>
    rw [h] at hcut
    contradiction

/-- A tag that is never closed is left. -/
theorem stripTags_unclosed (h : cut? ['>'] s = none) : stripTags ('<' :: s) = '<' :: s := by
  rw [stripTags, if_pos rfl]
  split
  · next hcut =>
    rw [h] at hcut
    contradiction
  · rfl

/-- What opens no tag is kept. -/
theorem stripTags_cons {c : Char} (h : c ≠ '<') (s : List Char) :
    stripTags (c :: s) = c :: stripTags s := by
  rw [stripTags, if_neg h]

/-- **Tags.**  A bracket that opens is left out up to the next that closes.  That leaves
no tag, however tags are nested, broken or formed by those that are left out. -/
theorem hasNoTag_stripTags (s : List Char) : HasNoTag (stripTags s) := by
  induction s using stripTags.induct with
  | case1 => simp [stripTags, hasNoTag_iff]
  | case2 s before after hcut ih =>
      rw [stripTags_closed hcut]
      exact ih
  | case3 s hcut =>
      have hclose : '>' ∉ s := by rwa [cut?_eq_none_iff, List.singleton_infix_iff] at hcut
      rw [stripTags_unclosed hcut, hasNoTag_iff]
      intro htag
      have hrest : ['>'] <+ s := by simpa using htag
      exact hclose (List.singleton_sublist.mp hrest)
  | case4 c s hc ih =>
      rw [stripTags_cons hc]
      exact ih.cons hc

/-- What is left of a text stood in it. -/
theorem stripTags_sublist (s : List Char) : stripTags s <+ s := by
  induction s using stripTags.induct with
  | case1 => simp [stripTags]
  | case2 s before after hcut ih =>
      have hafter : after <:+ s := by
        rw [eq_append_of_cut? hcut, ← List.append_assoc]
        exact List.suffix_append _ after
      rw [stripTags_closed hcut]
      exact (ih.trans hafter.sublist).cons '<'
  | case3 s hcut => rw [stripTags_unclosed hcut]
  | case4 c s hc ih =>
      rw [stripTags_cons hc]
      exact ih.cons_cons c

theorem stripTags_of_not_mem (h : '<' ∉ s) : stripTags s = s := by
  induction s with
  | nil => rw [stripTags]
  | cons c s ih =>
      rw [List.mem_cons, not_or] at h
      rw [stripTags_cons (Ne.symm h.1), ih h.2]

/-! ## Set lines -/

/-- The full lines are the trimmed ones that are not empty. -/
theorem mem_fullLines {line : List Char} :
    line ∈ fullLines s ↔ line ≠ [] ∧ ∃ whole ∈ lines s, trim whole = line := by
  simp [fullLines, and_comm]

/-- A line as it is set: indented, and behind the indent a text that no blank begins or
ends. -/
def IsSetLine (line : List Char) : Prop :=
  ∃ text, line = indent ++ text ∧ text ≠ [] ∧ (∀ c ∈ text.head?, ¬isBlank c = true) ∧
    ∀ c ∈ text.getLast?, ¬isBlank c = true

/-- An indented full line is set. -/
theorem isSetLine_of_mem_fullLines {line : List Char} (h : line ∈ fullLines s) :
    IsSetLine (indent ++ line) := by
  obtain ⟨hne, whole, -, rfl⟩ := mem_fullLines.mp h
  exact ⟨trim whole, rfl, hne, not_isBlank_head_trim whole, not_isBlank_getLast_trim whole⟩

/-- The lines of a text that has been set. -/
@[simp] theorem lines_setLines (s : List Char) :
    lines (setLines s) = (fullLines s).map (indent ++ ·) := by
  refine lines_intercalate fun line hline => ?_
  obtain ⟨text, htext, rfl⟩ := List.mem_map.mp hline
  obtain ⟨hne, whole, hwhole, rfl⟩ := mem_fullLines.mp htext
  refine ⟨by simp [indent], ?_, ?_⟩
  · have hfeed : '\n' ∉ trim whole :=
      fun hmem => not_mem_of_mem_lines hwhole ((trim_isInfix whole).subset hmem)
    simpa [indent] using hfeed
  · rw [List.getLast?_append_of_ne_nil _ hne]
    intro hlast
    exact absurd (by decide) (not_isBlank_getLast_trim whole '\r' hlast)

/-- Setting a text adds nothing but indents and line feeds. -/
theorem filter_setLines {p : Char → Bool} (hfeed : p '\n' = false) (hindent : p '\u3000' = false)
    (s : List Char) : (setLines s).filter p <+ s := by
  have hfull : (fullLines s).flatten <+ s := by
    have htrimmed := flatten_map_sublist (fun line => (trim_isInfix line).sublist) (lines s)
    exact (List.filter_sublist.flatten.trans htrimmed).trans (flatten_lines_sublist s)
  have hset (list : List (List Char)) :
      (['\n'].intercalate (list.map (indent ++ ·))).filter p = list.flatten.filter p := by
    induction list with
    | nil => rfl
    | cons line list ih =>
        by_cases hmore : list.map (indent ++ ·) = []
        · simp_all [indent]
        · rw [List.map_cons, List.intercalate_cons_of_ne_nil hmore]
          simp_all [indent]
  rw [setLines, hset]
  exact List.filter_sublist.trans hfull

/-! ## Typeset texts -/

/-- The text is made of set lines, and has no space that does not break. -/
structure IsTypeset (s : List Char) : Prop where
  joined : s = ['\n'].intercalate (lines s)
  set : ∀ line ∈ lines s, IsSetLine line
  unbroken : '\u00a0' ∉ s

/-- Lines that are set are a typeset text. -/
theorem isTypeset_setLines (h : '\u00a0' ∉ s) : IsTypeset (setLines s) where
  joined := by rw [lines_setLines, setLines]
  set := by
    rw [lines_setLines, List.forall_mem_map]
    exact fun line hline => isSetLine_of_mem_fullLines hline
  unbroken := by
    intro hmem
    have hset := filter_setLines (p := (· == '\u00a0')) (by decide) (by decide) s
    exact h (hset.subset (List.mem_filter.mpr ⟨hmem, by decide⟩))

theorem settle_ne (c : Char) : settle c ≠ '\u00a0' := by
  unfold settle
  split
  · decide
  · split
    · decide
    · assumption

/-- What becomes of any text without tags is typeset. -/
theorem isTypeset_plain (body : List Char) : IsTypeset (plain body) := by
  refine isTypeset_setLines ?_
  simp [settle_ne]

/-- Setting lines makes no tag. -/
theorem HasNoTag.setLines (h : HasNoTag s) : HasNoTag (setLines s) := by
  rw [hasNoTag_iff] at h ⊢
  intro htag
  have hbrackets := htag.filter fun c => c == '<' || c == '>'
  exact h (hbrackets.trans (filter_setLines (by decide) (by decide) s))

/-- Line feeds and spaces are all that characters become. -/
theorem eq_of_settle_eq {c d : Char} (h : settle c = d) (hfeed : d ≠ '\n') (hspace : d ≠ ' ') :
    c = d := by
  unfold settle at h
  split at h
  · exact absurd h.symm hfeed
  · split at h
    · exact absurd h.symm hspace
    · exact h

/-- Settling characters makes no tag. -/
theorem HasNoTag.map_settle (h : HasNoTag s) : HasNoTag (s.map settle) := by
  rw [hasNoTag_iff] at h ⊢
  intro htag
  obtain ⟨brackets, hsub, hmap⟩ := List.sublist_map_iff.mp htag
  obtain ⟨first, second, rfl⟩ : ∃ first second, brackets = [first, second] := by
    have hlength := congrArg List.length hmap
    rw [List.length_map] at hlength
    exact List.length_eq_two.mp hlength.symm
  simp only [List.map_cons, List.map_nil, List.cons.injEq, and_true] at hmap
  have hfirst := eq_of_settle_eq hmap.1.symm (by decide) (by decide)
  have hsecond := eq_of_settle_eq hmap.2.symm (by decide) (by decide)
  rw [hfirst, hsecond] at hsub
  exact h hsub

/-- Markup without references has no tag when it has been typeset. -/
theorem hasNoTag_plain {body : List Char} (h : '&' ∉ body) : HasNoTag (plain body) := by
  have hmarked : '&' ∉ exchange lineEnd? [lineMark] body :=
    fun hmem => (mem_of_mem_exchange hmem).elim (by decide) h
  have hblocks : '&' ∉ exchange block? [] (exchange lineEnd? [lineMark] body) :=
    fun hmem => (mem_of_mem_exchange hmem).elim (by simp) hmarked
  have hstripped : '&' ∉ stripTags (exchange block? [] (exchange lineEnd? [lineMark] body)) :=
    fun hmem => hblocks ((stripTags_sublist _).subset hmem)
  simp only [plain, Markup.decodeClosed_of_not_mem hstripped]
  exact (hasNoTag_stripTags _).map_settle.setLines

/-- **Typeset form.**  A typeset text is made of indented lines that no blank begins or
ends behind the indent, whatever is typeset and replaced.  Where nothing is replaced and
there are no references, no bracket that opens a tag is left with one behind it
that closes it. -/
theorem isTypeset_typeset (body : String) (rules : List String) :
    IsTypeset (typeset body rules).value.toList ∧
      ('&' ∉ body.toList → HasNoTag (typeset body []).value.toList) := by
  simp only [typeset, replaceEach, Traced.value_bind, Traced.value_pure, String.toList_ofList]
  exact ⟨isTypeset_plain _, hasNoTag_plain⟩

/-- Tags that are nested, broken and left open. -/
def brokenTags : String := "<p>a<b</p>c>d<i<br>x< y>z <<s>q</s> 1<2"

/-- What is left of them. -/
theorem isTypeset_typeset_brokenTags :
    '&' ∉ brokenTags.toList ∧ HasNoTag (typeset brokenTags []).value.toList ∧
      (typeset brokenTags []).value = "　　adz q 1<2" := by
  have hplain : '&' ∉ brokenTags.toList := by decide
  exact ⟨hplain, (isTypeset_typeset brokenTags []).2 hplain, by decide +kernel⟩

/-! ## Texts that are written as markup -/

/-- A character as it is read: a space that does not break is a space. -/
def asRead (c : Char) : Char := if c = '\u00a0' then ' ' else c

/-- The lines of a text as they are read, trimmed, without the blank ones. -/
def paragraphs (text : List Char) : List (List Char) :=
  ((lines text).map fun line => trim (line.map asRead)).filter (!·.isEmpty)

/-- Any character but the mark of a line is settled as it is read. -/
theorem settle_of_ne {c : Char} (h : c ≠ lineMark) : settle c = asRead c := by
  simp [settle, asRead, h]

theorem asRead_eq_iff {c d : Char} (hspace : d ≠ ' ') (hbreak : d ≠ '\u00a0') :
    asRead c = d ↔ c = d := by
  unfold asRead
  split
  · next hc => simp [hc, hspace.symm, hbreak.symm]
  · rfl

/-- The full lines of a text as it is read are its paragraphs. -/
@[simp] theorem fullLines_map_asRead (s : List Char) : fullLines (s.map asRead) = paragraphs s := by
  have hlines : lines (s.map asRead) = (lines s).map (·.map asRead) :=
    lines_map (fun c => asRead_eq_iff (by decide) (by decide))
      (fun c => asRead_eq_iff (by decide) (by decide)) s
  rw [fullLines, hlines, List.map_map]
  rfl

/-- Nothing is left out of a text in which no tag begins. -/
theorem plain_of_not_mem (h : '<' ∉ s) :
    plain s = setLines ((Markup.decodeClosed s).map settle) := by
  have hmarked : exchange lineEnd? [lineMark] s = s :=
    exchange_eq_self fun t ht => lineEnd?_eq_none (head?_ne_of_not_mem h ht)
  have hblocks : exchange block? [] s = s :=
    exchange_eq_self fun t ht => block?_eq_none (head?_ne_of_not_mem h ht)
  simp only [plain, hmarked, hblocks, stripTags_of_not_mem h]

/-- Escaped characters are read again, so that the paragraphs are set. -/
theorem plain_flatMap_escapeText (h : lineMark ∉ s) :
    plain (s.flatMap Markup.escapeText) =
      ['\n'].intercalate ((paragraphs s).map (indent ++ ·)) := by
  have hsettle : s.map settle = s.map asRead :=
    List.map_congr_left fun c hc => settle_of_ne fun hmark => h (hmark ▸ hc)
  simp [plain_of_not_mem (Markup.not_mem_flatMap_escapeText s), hsettle, setLines]

/-- **Nothing is lost.**  A text that is written as markup and typeset has the lines of
the text: as they are read, trimmed, without the blank ones, and indented. -/
theorem typeset_text (text : String) (h : lineMark ∉ text.toList) :
    typeset (Markup.Node.text text).outer [] =
      pure (String.ofList (['\n'].intercalate ((paragraphs text.toList).map (indent ++ ·)))) := by
  have houter : (Markup.Node.text text).outer =
      String.ofList (text.toList.flatMap Markup.escapeText) := rfl
  have htypeset (body : String) : typeset body [] = pure (String.ofList (plain body.toList)) := rfl
  simp [htypeset, houter, plain_flatMap_escapeText h]

/-- A text that looks like tags and references, with blank lines and spaces that do not
break. -/
def markupLike : String := "<b>1 &lt; 2</b>\r\n \n\u00a0 a\u00a0b &amp;lt; \r c"

/-- The text is typeset as it is read. -/
theorem typeset_text_markupLike :
    lineMark ∉ markupLike.toList ∧
      typeset (Markup.Node.text markupLike).outer [] =
        pure "　　<b>1 &lt; 2</b>\n　　a b &amp;lt; \r c" := by
  have hmark : lineMark ∉ markupLike.toList := by decide
  refine ⟨hmark, ?_⟩
  rw [typeset_text markupLike hmark]
  exact congrArg pure (by decide)

end Folio.Typeset
