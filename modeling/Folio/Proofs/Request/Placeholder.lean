import Folio.Proofs.Request.Escape
import Folio.Proofs.Text.Replace
import Folio.Proofs.Url.Percent
import Folio.Request.Template
import Mathlib.Tactic.IntervalCases

/-!
# Folio.Proofs.Request.Placeholder

The keyword in a text.  Its two placeholders are filled in one after the other, so
that the second is also looked for in what stands in the place of the first.  Every
keyword joins the same pieces of a text, unless the text has braces that some
keyword makes a placeholder of (`isSimultaneous_iff`).
-/

namespace Folio.Request

open Folio.Text

/-- Filling in a keyword joins the pieces by it, whatever the keyword. -/
def Joins (pieces : List (List Char)) (text : List Char) : Prop :=
  ∀ keyword encoded, (encodeKeyword keyword none).value = .ok encoded →
    fillInKeyword encoded.toList text = encoded.toList.intercalate pieces

/-- Every keyword joins the same pieces of the text. -/
def IsSimultaneous (text : List Char) : Prop := ∃ pieces, Joins pieces text

/-- The text is cut at placeholders into pieces that hold none. -/
inductive KeyPieces : List (List Char) → List Char → Prop
  | last {piece : List Char} (literal : ¬shortKeyVariable <:+: piece) : KeyPieces [piece] piece
  | joint {piece placeholder text : List Char} {pieces : List (List Char)}
      (literal : ¬shortKeyVariable <:+: piece)
      (marked : placeholder = keyVariable ∨ placeholder = shortKeyVariable)
      (rest : KeyPieces pieces text) : KeyPieces (piece :: pieces) (piece ++ (placeholder ++ text))

/-- Braces enclose placeholders, and some keyword in the place of these completes what
stands between them to the word of the short placeholder. -/
def CompletesKey (text : List Char) : Prop :=
  ∃ (keyword : List Char) (parts : List (List Char)), 2 ≤ parts.length ∧
    keyword.intercalate parts = "key".toList ∧
    '\x7b' :: (keyVariable.intercalate parts ++ ['\x7d']) <:+: text

/-- What a piece completes, the text completes. -/
theorem CompletesKey.of_isInfix {s t : List Char} (h : CompletesKey s) (hs : s <:+: t) :
    CompletesKey t := by
  obtain ⟨keyword, parts, hparts, hkey, hinside⟩ := h
  exact ⟨keyword, parts, hparts, hkey, hinside.trans hs⟩

/-- The long placeholder begins with two braces. -/
theorem keyVariable_eq : keyVariable = '\x7b' :: '\x7b' :: ("key\x7d".toList ++ ['\x7d']) := rfl

/-- The short one begins with one. -/
theorem shortKeyVariable_eq : shortKeyVariable = '\x7b' :: ("key".toList ++ ['\x7d']) := rfl

@[simp] theorem keyVariable_ne_nil : keyVariable ≠ [] := List.cons_ne_nil _ _

@[simp] theorem shortKeyVariable_ne_nil : shortKeyVariable ≠ [] := List.cons_ne_nil _ _

/-- The long placeholder does not overlap itself. -/
theorem borderless_keyVariable : Borderless keyVariable := by decide

/-- Nor does the short one. -/
theorem borderless_shortKeyVariable : Borderless shortKeyVariable := by decide

section Pieces

variable {encoded s t : List Char}

/-! ## Texts that no keyword completes -/

/-- The short placeholder does not begin before a keyword. -/
theorem apart_of_not_completesKey (hclose : '\x7d' ∉ encoded)
    (h : ¬CompletesKey (s ++ (keyVariable ++ t))) :
    Apart shortKeyVariable s (encoded ++ replaceAll keyVariable encoded t) := by
  intro left right hshort hleft hright hsuffix hbegins
  obtain ⟨d, part, rfl⟩ := List.exists_cons_of_ne_nil hleft
  obtain ⟨more, last, rfl⟩ := List.eq_nil_or_concat right |>.resolve_left hright
  rw [List.concat_eq_append] at hshort hbegins
  rw [shortKeyVariable_eq, List.cons_append, ← List.append_assoc] at hshort
  obtain ⟨rfl, hbody⟩ := List.cons.inj hshort
  obtain ⟨hword, rfl⟩ := List.append_singleton_inj.mp hbody
  obtain ⟨rest, rfl, hrest⟩ := exists_of_isPrefix_append_of_not_mem hclose hbegins
  obtain ⟨parts, hparts, rfl, hbehind⟩ :=
    exists_parts_of_isPrefix_replaceAll keyVariable_ne_nil hclose hrest
  obtain ⟨front, rfl⟩ := hsuffix
  obtain ⟨back, rfl⟩ := hbehind
  refine h ⟨encoded, part :: parts, ?_, ?_, ?_⟩
  · have hpos := List.length_pos_iff.mpr hparts
    rw [List.length_cons]
    omega
  · rw [List.intercalate_cons_of_ne_nil hparts, hword, List.append_assoc]
  · rw [List.intercalate_cons_of_ne_nil hparts]
    refine ⟨front, back, ?_⟩
    simp only [List.append_assoc, List.cons_append]

/-- There is always a piece. -/
theorem KeyPieces.ne_nil {pieces : List (List Char)} (h : KeyPieces pieces s) : pieces ≠ [] := by
  cases h <;> exact List.cons_ne_nil _ _

/-- The pieces of two texts with a placeholder between them. -/
theorem KeyPieces.append {first second : List (List Char)} (hfirst : KeyPieces first s)
    (hsecond : KeyPieces second t) : KeyPieces (first ++ second) (s ++ (keyVariable ++ t)) := by
  induction hfirst with
  | last literal => exact .joint literal (Or.inl rfl) hsecond
  | joint literal marked _ ih =>
      simp only [List.append_assoc]
      exact .joint literal marked ih

/-- The pieces between the short placeholders. -/
theorem exists_keyPieces (s : List Char) :
    ∃ pieces, KeyPieces pieces s ∧
      ∀ encoded, replaceAll shortKeyVariable encoded s = encoded.intercalate pieces := by
  induction s using cut?_induction shortKeyVariable_ne_nil with
  | lacks s hlacks =>
      refine ⟨[s], .last hlacks, fun encoded => ?_⟩
      rw [replaceAll_of_lacks shortKeyVariable_ne_nil hlacks, List.intercalate_singleton]
  | cut s before after hcut hbefore ih =>
      obtain ⟨pieces, hpieces, hjoined⟩ := ih
      refine ⟨before :: pieces, ?_, fun encoded => ?_⟩
      · rw [eq_append_of_cut? hcut]
        exact .joint hbefore (Or.inr rfl) hpieces
      · rw [replaceAll_of_cut? shortKeyVariable_ne_nil hcut, hjoined,
          List.intercalate_cons_of_ne_nil hpieces.ne_nil, List.append_assoc]

/-- **Pieces.**  A text that no keyword completes has pieces that every keyword joins. -/
theorem exists_pieces (h : ¬CompletesKey s) :
    ∃ pieces, KeyPieces pieces s ∧ ∀ encoded, '\x7b' ∉ encoded → '\x7d' ∉ encoded →
      fillInKeyword encoded s = encoded.intercalate pieces := by
  induction s using cut?_induction keyVariable_ne_nil with
  | lacks s hlacks =>
      obtain ⟨pieces, hpieces, hjoined⟩ := exists_keyPieces s
      refine ⟨pieces, hpieces, fun encoded _ _ => ?_⟩
      rw [fillInKeyword, replaceAll_of_lacks keyVariable_ne_nil hlacks, hjoined]
  | cut s before after hcut _ ih =>
      have hs := eq_append_of_cut? hcut
      rw [hs] at h
      have hafter : ¬CompletesKey after := by
        refine fun hcompletes => h (hcompletes.of_isInfix ?_)
        rw [← List.append_assoc]
        exact (List.suffix_append _ after).isInfix
      obtain ⟨first, hfirst, hbefore⟩ := exists_keyPieces before
      obtain ⟨second, hsecond, hjoined⟩ := ih hafter
      refine ⟨first ++ second, hs ▸ hfirst.append hsecond, fun encoded hopen hclose => ?_⟩
      have hlacks : ¬shortKeyVariable <:+: encoded :=
        fun hinside => hopen (hinside.subset List.mem_cons_self)
      rw [fillInKeyword, replaceAll_of_cut? keyVariable_ne_nil hcut,
        replaceAll_append shortKeyVariable_ne_nil (apart_of_not_completesKey hclose h),
        replaceAll_append shortKeyVariable_ne_nil (apart_of_head_not_mem hopen _ _),
        replaceAll_of_lacks shortKeyVariable_ne_nil hlacks, ← fillInKeyword,
        hjoined encoded hopen hclose, hbefore,
        intercalate_append hfirst.ne_nil hsecond.ne_nil]

end Pieces

section Completed

variable {keyword foreign t : List Char} {parts : List (List Char)}

/-! ## Texts that a keyword completes -/

/-- No placeholder begins before the parts of the word. -/
theorem apart_before_parts (hparts : ∀ part ∈ parts, '\x7b' ∉ part ∧ '\x7d' ∉ part)
    (htwo : 2 ≤ parts.length) (u v : List Char) :
    Apart keyVariable (u ++ ['\x7b']) (keyVariable.intercalate parts ++ v) := by
  have hne : parts ≠ [] := List.ne_nil_of_length_pos (by omega)
  obtain ⟨part, others, rfl⟩ := List.exists_cons_of_ne_nil hne
  have hothers : others ≠ [] := List.ne_nil_of_length_pos (Nat.le_of_succ_le_succ htwo)
  obtain ⟨-, hclose⟩ := hparts part List.mem_cons_self
  rw [List.intercalate_cons_of_ne_nil hothers]
  intro left right hkey hleft hright _ hbegins
  obtain ⟨d, left, rfl⟩ := List.exists_cons_of_ne_nil hleft
  obtain ⟨more, last, rfl⟩ := List.eq_nil_or_concat right |>.resolve_left hright
  rw [List.concat_eq_append] at hkey hbegins
  have hlast : keyVariable.getLast? = some '\x7d' := rfl
  rw [hkey, ← List.append_assoc, List.getLast?_concat] at hlast
  obtain rfl := Option.some.inj hlast
  simp only [List.append_assoc] at hbegins
  obtain ⟨rest, rfl, hrest⟩ := exists_of_isPrefix_append_of_not_mem hclose hbegins
  -- the placeholder behind the part has two braces, and only one is left for the joint
  rw [keyVariable_eq] at hrest
  match rest, hrest with
  | [], hrest => exact absurd (List.cons_prefix_cons.mp hrest).1 (by decide)
  | [_], hrest =>
      have hsecond := (List.cons_prefix_cons.mp hrest).2
      exact absurd (List.cons_prefix_cons.mp hsecond).1 (by decide)
  | a :: b :: rest, hrest =>
      obtain ⟨rfl, hsecond⟩ := List.cons_prefix_cons.mp hrest
      obtain ⟨rfl, -⟩ := List.cons_prefix_cons.mp hsecond
      have hone : keyVariable.tail.count '\x7b' = 1 := by decide
      rw [hkey] at hone
      simp only [List.cons_append, List.tail_cons, List.count_append, List.count_cons_self] at hone
      omega

/-- The parts of the word keep their place between the braces. -/
theorem replaceAll_completed (hparts : ∀ part ∈ parts, '\x7b' ∉ part ∧ '\x7d' ∉ part)
    (htwo : 2 ≤ parts.length) (sub u v : List Char) :
    replaceAll keyVariable sub
        (u ++ ('\x7b' :: (keyVariable.intercalate parts ++ ('\x7d' :: v)))) =
      replaceAll keyVariable sub u ++
        ('\x7b' :: (sub.intercalate parts ++ ('\x7d' :: replaceAll keyVariable sub v))) := by
  have hne : parts ≠ [] := List.ne_nil_of_length_pos (by omega)
  have hsingle {c : Char} : replaceAll keyVariable sub [c] = [c] := by
    refine replaceAll_of_lacks keyVariable_ne_nil fun hinside => ?_
    exact absurd hinside.length_le (by simp [keyVariable_eq])
  have hjoint : Apart keyVariable u ['\x7b'] :=
    apart_of_last_not_mem (by decide : '\x7d' ∉ ['\x7b']) keyVariable.dropLast u
  have hfront : replaceAll keyVariable sub (u ++ ['\x7b']) =
      replaceAll keyVariable sub u ++ ['\x7b'] := by
    rw [replaceAll_append keyVariable_ne_nil hjoint, hsingle]
  have hback : replaceAll keyVariable sub (['\x7d'] ++ v) =
      ['\x7d'] ++ replaceAll keyVariable sub v := by
    rw [replaceAll_append keyVariable_ne_nil (apart_of_head_not_mem (by decide) _ v), hsingle]
  have hsplit : u ++ ('\x7b' :: (keyVariable.intercalate parts ++ ('\x7d' :: v))) =
      u ++ ['\x7b'] ++ (keyVariable.intercalate parts ++ (['\x7d'] ++ v)) := by simp
  rw [hsplit, replaceAll_append keyVariable_ne_nil (apart_before_parts hparts htwo u _), hfront,
    keyVariable_eq, replaceAll_intercalate (fun part hpart => (hparts part hpart).1) hne,
    ← keyVariable_eq, hback]
  simp

/-- How many short placeholders there are when the long ones have been filled in. -/
def remaining (keyword text : List Char) : Nat :=
  occurrences shortKeyVariable (replaceAll keyVariable keyword text)

/-- A keyword that no placeholder has a character of. -/
def IsForeign (keyword : List Char) : Prop := keyword ≠ [] ∧ ∀ c ∈ keyword, c ∉ shortKeyVariable

/-- Such a keyword keeps the texts around it apart. -/
theorem IsForeign.occurrences_append (h : IsForeign foreign) (s t : List Char) :
    occurrences shortKeyVariable (s ++ (foreign ++ t)) =
      occurrences shortKeyVariable s + occurrences shortKeyVariable t := by
  obtain ⟨hne, hforeign⟩ := h
  obtain ⟨c, cs, rfl⟩ := List.exists_cons_of_ne_nil hne
  have htail : c ∉ shortKeyVariable.tail :=
    fun hc => hforeign c List.mem_cons_self (List.mem_of_mem_tail hc)
  have hopen : '\x7b' ∉ c :: cs := fun hmem => hforeign _ hmem (by decide)
  have hfront : Apart shortKeyVariable s (c :: (cs ++ t)) := apart_cons_of_not_mem_tail htail s _
  have hback : Apart shortKeyVariable (c :: cs) t := apart_of_head_not_mem hopen _ t
  have hlacks : ¬shortKeyVariable <:+: c :: cs :=
    fun hinside => hopen (hinside.subset List.mem_cons_self)
  rw [List.cons_append, Text.occurrences_append hfront, ← List.cons_append,
    Text.occurrences_append hback, occurrences_of_lacks hlacks, Nat.zero_add]

/-- No keyword leaves fewer short placeholders than one that has nothing of them. -/
theorem IsForeign.remaining_le (h : IsForeign foreign) (keyword t : List Char) :
    remaining foreign t ≤ remaining keyword t := by
  induction t using cut?_induction keyVariable_ne_nil with
  | lacks t hlacks =>
      simp [remaining, replaceAll_of_lacks keyVariable_ne_nil hlacks]
  | cut t before after hcut _ ih =>
      rw [remaining, remaining] at ih ⊢
      rw [replaceAll_of_cut? keyVariable_ne_nil hcut, replaceAll_of_cut? keyVariable_ne_nil hcut,
        h.occurrences_append]
      have hfront := le_occurrences_append shortKeyVariable before
        (keyword ++ replaceAll keyVariable keyword after)
      have hback := le_occurrences_append shortKeyVariable keyword
        (replaceAll keyVariable keyword after)
      omega

/-- Parts that a keyword joins to the word lack braces. -/
theorem parts_unbraced (hkey : keyword.intercalate parts = "key".toList) :
    ∀ part ∈ parts, '\x7b' ∉ part ∧ '\x7d' ∉ part := by
  intro part hpart
  have hinside : part <:+: "key".toList := hkey ▸ isInfix_intercalate hpart
  exact ⟨fun hc => absurd (hinside.subset hc) (by decide),
    fun hc => absurd (hinside.subset hc) (by decide)⟩

/-- What is put between two parts stands in the joined text. -/
theorem isInfix_intercalate_of_two (htwo : 2 ≤ parts.length) (sub : List Char) :
    sub <:+: sub.intercalate parts := by
  have hne : parts ≠ [] := List.ne_nil_of_length_pos (by omega)
  obtain ⟨part, others, rfl⟩ := List.exists_cons_of_ne_nil hne
  have hothers : others ≠ [] := List.ne_nil_of_length_pos (Nat.le_of_succ_le_succ htwo)
  rw [List.intercalate_cons_of_ne_nil hothers]
  exact List.infix_append _ _ _

/-- Where parts of the word stand between braces, the foreign keyword makes no placeholder
of them. -/
theorem IsForeign.occurrences_parts (h : IsForeign foreign) (htwo : 2 ≤ parts.length)
    (hparts : ∀ part ∈ parts, '\x7b' ∉ part ∧ '\x7d' ∉ part)
    (s t : List Char) :
    occurrences shortKeyVariable (s ++ ('\x7b' :: (foreign.intercalate parts ++ ('\x7d' :: t)))) =
      occurrences shortKeyVariable s + occurrences shortKeyVariable t := by
  have hopen : '\x7b' ∉ foreign.intercalate parts :=
    not_mem_intercalate (fun hc => h.2 _ hc (by decide)) fun part hpart => (hparts part hpart).1
  have hclose : '\x7d' ∉ foreign.intercalate parts :=
    not_mem_intercalate (fun hc => h.2 _ hc (by decide)) fun part hpart => (hparts part hpart).2
  have hword : ¬shortKeyVariable <+: '\x7b' :: (foreign.intercalate parts ++ ('\x7d' :: t)) := by
    rw [shortKeyVariable_eq, List.cons_prefix_cons]
    rintro ⟨-, hbegins⟩
    obtain ⟨rest, hrest, -⟩ := exists_of_isPrefix_append_of_not_mem hclose hbegins
    obtain ⟨c, hc⟩ := List.exists_mem_of_ne_nil foreign h.1
    have hmem : c ∈ "key".toList := by
      rw [hrest]
      exact List.mem_append_left rest ((isInfix_intercalate_of_two htwo foreign).subset hc)
    have hshort : c ∈ '\x7b' :: ("key".toList ++ ['\x7d']) :=
      List.mem_cons_of_mem _ (List.mem_append_left _ hmem)
    exact h.2 c hc hshort
  have hend : ¬shortKeyVariable <+: '\x7d' :: t :=
    fun hbegins => absurd (List.cons_prefix_cons.mp hbegins).1 (by decide)
  have hjoint : Apart shortKeyVariable s
      ('\x7b' :: (foreign.intercalate parts ++ ('\x7d' :: t))) :=
    apart_cons_of_not_mem_tail (by decide : '\x7b' ∉ shortKeyVariable.tail) s _
  have hinner : Apart shortKeyVariable (foreign.intercalate parts) ('\x7d' :: t) :=
    apart_of_head_not_mem hopen _ _
  have hlacks : ¬shortKeyVariable <:+: foreign.intercalate parts :=
    fun hinside => hopen (hinside.subset List.mem_cons_self)
  rw [Text.occurrences_append hjoint, occurrences, if_neg hword,
    Text.occurrences_append hinner, occurrences_of_lacks hlacks, occurrences, if_neg hend]
  omega

/-- The keyword that completes the word leaves more. -/
theorem IsForeign.remaining_lt (h : IsForeign foreign) (hcompletes : CompletesKey t) :
    ∃ keyword : List Char, keyword <:+: "key".toList ∧
      remaining foreign t < remaining keyword t := by
  obtain ⟨keyword, parts, htwo, hkey, u, v, rfl⟩ := hcompletes
  have hparts := parts_unbraced hkey
  have hsplit : u ++ '\x7b' :: (keyVariable.intercalate parts ++ ['\x7d']) ++ v =
      u ++ ('\x7b' :: (keyVariable.intercalate parts ++ ('\x7d' :: v))) := by simp
  have hshort (rest : List Char) :
      '\x7b' :: ("key".toList ++ ('\x7d' :: rest)) = shortKeyVariable ++ rest := rfl
  refine ⟨keyword, hkey ▸ isInfix_intercalate_of_two htwo keyword, ?_⟩
  rw [remaining, remaining, hsplit, replaceAll_completed hparts htwo,
    replaceAll_completed hparts htwo, h.occurrences_parts htwo hparts, hkey, hshort,
    Text.occurrences_append (borderless_shortKeyVariable.apart _ _),
    occurrences_pattern borderless_shortKeyVariable shortKeyVariable_ne_nil]
  have hbefore := h.remaining_le keyword u
  have hbehind := h.remaining_le keyword v
  rw [remaining, remaining] at hbefore hbehind
  omega

end Completed

/-! ## Keywords -/

/-- The length of a text tells how many placeholders were filled in. -/
theorem length_fillInKeyword (encoded text : List Char) :
    (fillInKeyword encoded text).length + remaining encoded text * 5 +
        occurrences keyVariable text * 7 =
      text.length + (remaining encoded text + occurrences keyVariable text) * encoded.length := by
  have hfirst := length_replaceAll borderless_keyVariable keyVariable_ne_nil encoded text
  have hsecond := length_replaceAll borderless_shortKeyVariable shortKeyVariable_ne_nil encoded
    (replaceAll keyVariable encoded text)
  have hlong : keyVariable.length = 7 := rfl
  have hshort : shortKeyVariable.length = 5 := rfl
  rw [hlong] at hfirst
  rw [hshort, ← fillInKeyword, ← remaining] at hsecond
  rw [Nat.add_mul]
  omega

/-- Without a label keywords are encoded in UTF-8. -/
theorem forLabel?_default :
    Charset.forLabel? ((none : Option String).getD "utf-8").toList = some .utf8 := by
  decide +kernel

/-- Such letters stand for themselves in a request. -/
theorem value_encodeKeyword_of_letters {s : List Char} (hs : ∀ c ∈ s, c ∈ "keyx".toList) :
    (encodeKeyword (String.ofList s) none).value = .ok (String.ofList s) := by
  have hletters : ∀ c ∈ "keyx".toList, Url.encodeText keptInComponent [c] = [c] := by decide
  have hself : Url.encodeText keptInComponent s = s :=
    Url.encodeText_eq_self fun c hc => hletters c (hs c hc)
  rw [value_encodeKeyword forLabel?_default, encode_utf8, String.toList_ofList]
  exact congrArg (fun text => Except.ok (String.ofList text)) hself

/-- Where every keyword joins the same pieces, the text grows by as much for each character
of it. -/
theorem IsSimultaneous.exists_length {text : List Char} (h : IsSimultaneous text) :
    ∃ fixed count, ∀ s : List Char, (∀ c ∈ s, c ∈ "keyx".toList) →
      (fillInKeyword s text).length = fixed + count * s.length := by
  obtain ⟨pieces, hpieces⟩ := h
  refine ⟨pieces.flatten.length, pieces.length - 1, fun s hs => ?_⟩
  have hfilled := hpieces _ _ (value_encodeKeyword_of_letters hs)
  rw [String.toList_ofList] at hfilled
  rw [hfilled, length_intercalate]

/-- What is written for a keyword has no braces. -/
theorem not_mem_of_value_encodeKeyword {keyword encoded : String} {c : Char}
    (hc : c ∈ separators) (h : (encodeKeyword keyword none).value = .ok encoded) :
    c ∉ encoded.toList := by
  rw [value_encodeKeyword forLabel?_default] at h
  rw [← Except.ok.inj h, String.toList_ofList]
  exact not_mem_encodeBytes hc _ _

/-- Where a keyword completes the word, no pieces are joined by every keyword. -/
theorem CompletesKey.not_isSimultaneous {text : List Char} (h : CompletesKey text) :
    ¬IsSimultaneous text := by
  intro hsimultaneous
  obtain ⟨fixed, count, hlength⟩ := hsimultaneous.exists_length
  have hone : IsForeign ['x'] := ⟨by decide, by decide⟩
  have htwo : IsForeign ['x', 'x'] := ⟨by decide, by decide⟩
  obtain ⟨keyword, hkeyword, hmore⟩ := hone.remaining_lt h
  have hletters : ∀ c ∈ keyword, c ∈ "keyx".toList := fun c hc =>
    List.mem_append_left ['x'] (hkeyword.subset hc)
  have hshort : keyword.length ≤ 3 := hkeyword.length_le
  -- the foreign keywords of two lengths tell how many pieces there are
  have hsame := Nat.le_antisymm (hone.remaining_le ['x', 'x'] text)
    (htwo.remaining_le ['x'] text)
  have hfirst := length_fillInKeyword ['x'] text
  have hsecond := length_fillInKeyword ['x', 'x'] text
  have hthird := length_fillInKeyword keyword text
  rw [hlength _ (by decide)] at hfirst hsecond
  rw [hlength _ hletters] at hthird
  rw [← hsame] at hsecond
  simp only [List.length_cons, List.length_nil] at hfirst hsecond
  interval_cases keyword.length <;> omega

/-- **The keyword in a text.**  Every keyword joins the same pieces of a text, unless it
has braces that enclose parts of the word of the short placeholder and some keyword
completes these to the word.  The pieces are then what stands between the placeholders. -/
theorem isSimultaneous_iff (text : List Char) :
    (IsSimultaneous text ↔ ¬CompletesKey text) ∧
      (IsSimultaneous text → ∃ pieces, KeyPieces pieces text ∧ Joins pieces text) := by
  have hpieces (h : ¬CompletesKey text) :
      ∃ pieces, KeyPieces pieces text ∧ Joins pieces text := by
    obtain ⟨pieces, hkeys, hjoined⟩ := exists_pieces h
    refine ⟨pieces, hkeys, fun keyword encoded hvalue => hjoined _ ?_ ?_⟩
    · exact not_mem_of_value_encodeKeyword (by decide) hvalue
    · exact not_mem_of_value_encodeKeyword (by decide) hvalue
  have hiff : IsSimultaneous text ↔ ¬CompletesKey text := by
    refine ⟨fun h hcompletes => hcompletes.not_isSimultaneous h, fun h => ?_⟩
    obtain ⟨pieces, -, hjoins⟩ := hpieces h
    exact ⟨pieces, hjoins⟩
  exact ⟨hiff, fun h => hpieces (hiff.mp h)⟩

/-- Between further braces the keyword `key` becomes a placeholder and is filled in again. -/
theorem not_isSimultaneous_bracedKey :
    ¬IsSimultaneous "\x7b\x7b\x7bkey\x7d\x7d\x7d".toList := by
  intro h
  obtain ⟨fixed, count, hlength⟩ := h.exists_length
  have hnone : (fillInKeyword [] "\x7b\x7b\x7bkey\x7d\x7d\x7d".toList).length = 2 := by
    decide +kernel
  have hone : (fillInKeyword ['x'] "\x7b\x7b\x7bkey\x7d\x7d\x7d".toList).length = 3 := by
    decide +kernel
  have hkey : fillInKeyword "key".toList "\x7b\x7b\x7bkey\x7d\x7d\x7d".toList =
      "key".toList := by decide +kernel
  have hgrown := hlength "key".toList (by decide)
  have hthree : "key".toList.length = 3 := rfl
  rw [hkey, hthree] at hgrown
  rw [hlength _ (by decide)] at hnone hone
  simp only [List.length_nil, List.length_singleton] at hnone hone
  omega

end Folio.Request
