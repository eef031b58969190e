import Folio.Proofs.Rule.PathText

/-!
# Folio.Proofs.Rule.Condition

Conditions without connectives are read as they are written.  Such a condition
is known by how it begins: a number, one of the words, or else an operand, which
a comparison for equality may follow.  A string in it may hold any of the marks
that are looked for.
-/

namespace Folio.Rule

open Folio.Text

variable {operand : Operand} {value : String} {name s t tail : List Char} {d : Char}

/-! ## Operands and strings -/

/-- A name is none of the words that have other characters. -/
theorem ne_of_isPathName (h : isPathName s = true) (hd : d ∈ t) (hname : isNameChar d = false) :
    s ≠ t := by
  rintro rfl
  rw [isNameChar_of_mem h hd] at hname
  contradiction

theorem stripPrefix?_at_eq_none (h : isPathName s = true) : stripPrefix? ['@'] s = none := by
  rw [stripPrefix?_eq_none_iff]
  intro hstarts
  have hat := isNameChar_of_mem h (hstarts.subset List.mem_cons_self)
  contradiction

/-- An operand is read as it is written. -/
theorem Operand.read_written (h : operand.IsWritable) :
    Operand.read operand.written = .ok operand := by
  rw [Operand.read, (Operand.hasEdges_written h).trim]
  cases operand with
  | «attribute» n =>
      have hname : isPathName n.toList = true := h
      simp [Operand.written, stripPrefix?, hname]
  | child n =>
      have hname : isPathName n.toList = true := h
      have htext : n.toList ≠ "text()".toList := ne_of_isPathName hname (d := '(') (by decide) rfl
      have hself : n.toList ≠ ['.'] := ne_of_isPathName hname List.mem_cons_self rfl
      simp only [Operand.written, if_neg htext, if_neg hself, stripPrefix?_at_eq_none hname,
        if_pos hname, String.ofList_toList]
  | text => rfl
  | self => rfl

/-- A string is read as it is written. -/
@[simp] theorem readLiteral_literalText (value : String) :
    readLiteral (literalText value) = .ok value := by
  rw [readLiteral, (hasEdges_literalText value).trim]
  rcases markFor_eq value with hmark | hmark
  · have hquoted : quotedBy? '\'' (literalText value) = some value.toList := by
      rw [quotedBy?_eq_some_iff, literalText, hmark]
    simp only [hquoted, String.ofList_toList]
  · have hsingle : quotedBy? '\'' (literalText value) = none := by
      rw [literalText, hmark]
      exact quotedBy?_eq_none (by decide) _
    have hquoted : quotedBy? '"' (literalText value) = some value.toList := by
      rw [quotedBy?_eq_some_iff, literalText, hmark]
    simp only [hsingle, hquoted, String.ofList_toList]

/-! ## Calls -/

/-- A call is read as it is written. -/
theorem readCall_callText (name : List Char) (h : operand.IsWritable) (hvalue : IsQuotable value) :
    readCall name (callText name operand value) = .ok (some (operand, value)) := by
  have hinside : ((stripPrefix? name (callText name operand value)).bind fun rest =>
      (stripPrefix? ['('] (trimStart rest)).bind (stripSuffix? [')'])) =
      some (operand.written ++ (',' :: literalText value)) := by
    have hparenthesis (s : List Char) : stripPrefix? ['('] (trimStart ('(' :: s)) = some s := rfl
    rw [callText, stripPrefix?_append, Option.bind_some, hparenthesis, Option.bind_some,
      stripSuffix?_append]
  have harguments : splitTopLevel [','] true (operand.written ++ (',' :: literalText value)) =
      [operand.written, literalText value] :=
    splitTopLevel_balanced_pair rfl (Operand.balanced_written h) (by decide)
      (balanced_literalText (p := fun _ => False) hvalue) id
  simp only [readCall, hinside, harguments, Operand.read_written h, readLiteral_literalText]

/-- A text is no call where neither a parenthesis nor a blank follows the name. -/
theorem readCall_eq_none (h : ∀ c rest, s = name ++ c :: rest → c ≠ '(' ∧ isBlank c = false) :
    readCall name s = .ok none := by
  have hinside : ((stripPrefix? name s).bind fun rest =>
      (stripPrefix? ['('] (trimStart rest)).bind (stripSuffix? [')'])) = none := by
    cases hstrip : stripPrefix? name s with
    | none => rfl
    | some rest =>
        cases rest with
        | nil => rfl
        | cons c rest =>
            obtain ⟨hparenthesis, hblank⟩ := h c rest (eq_append_of_stripPrefix? hstrip)
            have hstart : trimStart (c :: rest) = c :: rest :=
              List.dropWhile_cons_of_neg (by rw [hblank]; exact Bool.false_ne_true)
            simp [hstart, stripPrefix?, hparenthesis.symm]
  simp only [readCall, hinside]

/-! ## Words -/

/-- A text of path characters ends at the first other one. -/
theorem span_isPathChar (hs : ∀ c ∈ s, isPathChar c = true)
    (ht : ∀ c ∈ t.head?, isPathChar c = false) :
    (s ++ t).takeWhile isPathChar = s ∧ (s ++ t).dropWhile isPathChar = t := by
  rw [List.takeWhile_append_of_pos hs, List.dropWhile_append_of_pos hs]
  cases t with
  | nil => exact ⟨List.append_nil s, rfl⟩
  | cons c t =>
      have hc : ¬isPathChar c = true := by
        rw [ht c rfl]
        exact Bool.false_ne_true
      rw [List.takeWhile_cons_of_neg hc, List.dropWhile_cons_of_neg hc]
      exact ⟨List.append_nil s, rfl⟩

/-- What may follow an operand: nothing, or a comparison for equality. -/
def FollowsOperand (tail : List Char) : Prop := ∀ c ∈ tail.head?, c = '=' ∨ c = '!'

/-- An operand does not begin with a word and another mark behind it. -/
theorem Operand.append_ne_word {word rest : List Char} (h : operand.IsWritable)
    (htail : FollowsOperand tail) (hword : ∀ c ∈ word, isPathChar c = true)
    (htext : word ≠ ['t', 'e', 'x', 't']) (hd : isPathChar d = false) (hequals : d ≠ '=')
    (hbang : d ≠ '!') : operand.written ++ tail ≠ word ++ d :: rest := by
  intro hsame
  have hspan := span_isPathChar (t := d :: rest) hword fun c hc => Option.some.inj hc ▸ hd
  rw [← hsame] at hspan
  by_cases hoperand : operand = .text
  · have hbefore := hspan.1
    rw [hoperand] at hbefore
    exact htext hbefore.symm
  · have hstop : ∀ c ∈ tail.head?, isPathChar c = false := fun c hc => by
      rcases htail c hc with rfl | rfl <;> rfl
    have hafter := (span_isPathChar (fun c => Operand.isPathChar_of_mem h hoperand) hstop).2
    rw [hspan.2] at hafter
    rcases htail d (by rw [← hafter]; rfl) with rfl | rfl <;> contradiction

/-! ## Conditions without connectives -/

/-- What holds more than digits is no number. -/
theorem naturalUpTo?_eq_none {c : Char} (hc : c ∈ s) (hdigit : isAsciiDigit c = false)
    (hplus : c ≠ '+') (most : Nat) : naturalUpTo? most s = none := by
  have hnatural {digits : List Char} (hc : c ∈ digits) : natural? digits = none := by
    refine if_neg fun hall => ?_
    rw [List.all_eq_true.mp hall.2 c hc] at hdigit
    contradiction
  rw [naturalUpTo?.eq_def]
  split
  · exact congrArg (Option.filter (· ≤ most))
      (hnatural ((List.mem_cons.mp hc).resolve_left hplus))
  · exact congrArg (Option.filter (· ≤ most)) (hnatural hc)

/-- A position is read from its numeral. -/
theorem readAtom_position {n : Nat} (hpos : 1 ≤ n) (hmost : n ≤ Nat.pow 2 64 - 1) :
    readAtom (toString n).toList = .ok (.position n) := by
  rw [readAtom, naturalUpTo?_toString hmost]
  cases n with
  | zero => contradiction
  | succ n => rfl

/-- An offset from the last item is read. -/
theorem readLast_offset {offset : Nat} (hmost : offset ≤ Nat.pow 2 64 - 1) (text : List Char) :
    readLast text (trim (if offset = 0 then [] else '-' :: (toString offset).toList)) =
      .ok (.last offset) := by
  by_cases hzero : offset = 0
  · rw [if_pos hzero, hzero]
    rfl
  · have hnumber : HasEdges (toString offset).toList := hasEdges_number offset
    have hminus : HasEdges ['-'] := .singleton rfl
    have htrim : trim ('-' :: (toString offset).toList) = '-' :: (toString offset).toList :=
      (hminus.append hnumber).trim
    have hread : (stripPrefix? ['-'] ('-' :: (toString offset).toList)).bind (fun n =>
        naturalUpTo? (Nat.pow 2 64 - 1) (trim n)) = some offset := by
      have hstrip : stripPrefix? ['-'] ('-' :: (toString offset).toList) =
          some (toString offset).toList := rfl
      rw [hstrip, Option.bind_some, hnumber.trim, naturalUpTo?_toString hmost]
    rw [if_neg hzero, htrim, readLast, if_neg (by simp)]
    simp only [hread]

/-- The last item and those before it are read. -/
theorem readAtom_last {offset : Nat} (hmost : offset ≤ Nat.pow 2 64 - 1) :
    readAtom (Predicate.last offset).written = .ok (.last offset) := by
  rw [Predicate.written_last, readAtom,
    naturalUpTo?_eq_none (c := 'l') (List.mem_append_left _ (by decide)) rfl (by decide)]
  simp only [stripPrefix?_append]
  exact readLast_offset hmost _

/-- The mark of a comparison is found, since no longer one stands there. -/
theorem findSome?_orderMarks (order : PositionOrder) {c : Char} (hc : c ≠ '=') (rest : List Char) :
    orderMarks.findSome? (fun (mark, o) =>
      (stripPrefix? mark (order.mark ++ c :: rest)).map fun n => (o, n)) =
      some (order, c :: rest) := by
  cases order <;> simp [orderMarks, PositionOrder.mark, stripPrefix?, hc.symm]

/-- A comparison of positions is read from its mark and number. -/
theorem readOrder_written {order : PositionOrder} {n : Int} (hleast : -(Int.pow 2 63) ≤ n)
    (hmost : n ≤ Int.pow 2 63 - 1) (text : List Char) :
    readOrder text (order.mark ++ (toString n).toList) = .ok (.positionIs order n) := by
  obtain ⟨c, rest, hcons, hc⟩ := exists_toString_int_eq_cons n
  have hequals : c ≠ '=' := by
    rintro rfl
    rcases hc with hminus | hdigit <;> contradiction
  have hmark := findSome?_orderMarks order hequals rest
  have hnumber : integerWithin? (-(Int.pow 2 63)) (Int.pow 2 63 - 1) (trim (c :: rest)) =
      some n := by
    rw [← hcons, (hasEdges_number n).trim, integerWithin?_toString, if_pos ⟨hleast, hmost⟩]
  rw [readOrder, hcons]
  simp only [hmark, hnumber]

theorem hasEdges_order (order : PositionOrder) : HasEdges order.mark := by
  cases order <;> exact .of_forall (by decide) (by decide)

/-- A comparison of the position is read. -/
theorem readAtom_positionIs {order : PositionOrder} {n : Int} (hleast : -(Int.pow 2 63) ≤ n)
    (hmost : n ≤ Int.pow 2 63 - 1) :
    readAtom (Predicate.positionIs order n).written = .ok (.positionIs order n) := by
  have hlast : stripPrefix? "last()".toList (Predicate.positionIs order n).written = none := rfl
  have hposition : stripPrefix? "position()".toList (Predicate.positionIs order n).written =
      some (order.mark ++ (toString n).toList) := stripPrefix?_append _ _
  have hnumber : naturalUpTo? (Nat.pow 2 64 - 1) (Predicate.positionIs order n).written = none :=
    naturalUpTo?_eq_none (c := 'p') (List.mem_append_left _ (by decide)) rfl (by decide) _
  have htrim := ((hasEdges_order order).append (hasEdges_number n)).trim
  simp only [readAtom, hnumber, hlast, hposition, htrim, readOrder_written hleast hmost]

/-- A test for a part of a text is read. -/
theorem readAtom_contains (h : operand.IsWritable) (hvalue : IsQuotable value) :
    readAtom (Predicate.contains operand value).written = .ok (.contains operand value) := by
  have hlast : stripPrefix? "last()".toList (Predicate.contains operand value).written = none := rfl
  have hposition : stripPrefix? "position()".toList (Predicate.contains operand value).written =
      none := rfl
  have hcall : readCall "contains".toList (Predicate.contains operand value).written =
      .ok (some (operand, value)) := readCall_callText _ h hvalue
  have hnumber : naturalUpTo? (Nat.pow 2 64 - 1) (Predicate.contains operand value).written =
      none := naturalUpTo?_eq_none (c := 'c') (List.mem_append_left _ (by decide)) rfl (by decide) _
  simp only [readAtom, hnumber, hlast, hposition, hcall]

/-- A test for the beginning of a text is read. -/
theorem readAtom_startsWith (h : operand.IsWritable) (hvalue : IsQuotable value) :
    readAtom (Predicate.startsWith operand value).written = .ok (.startsWith operand value) := by
  have hlast : stripPrefix? "last()".toList (Predicate.startsWith operand value).written = none :=
    rfl
  have hposition : stripPrefix? "position()".toList (Predicate.startsWith operand value).written =
      none := rfl
  have hcontains : readCall "contains".toList (Predicate.startsWith operand value).written =
      .ok none := rfl
  have hcall : readCall "starts-with".toList (Predicate.startsWith operand value).written =
      .ok (some (operand, value)) := readCall_callText _ h hvalue
  have hnumber : naturalUpTo? (Nat.pow 2 64 - 1) (Predicate.startsWith operand value).written =
      none := naturalUpTo?_eq_none (c := 's') (List.mem_append_left _ (by decide)) rfl (by decide) _
  simp only [readAtom, hnumber, hlast, hposition, hcontains, hcall]

/-! ## Conditions on an operand -/

/-- What is tested is no call. -/
theorem readCall_operand (name : List Char) (h : operand.IsWritable) (htail : FollowsOperand tail)
    (hword : ∀ c ∈ name, isPathChar c = true) (htext : name ≠ ['t', 'e', 'x', 't']) :
    readCall name (operand.written ++ tail) = .ok none := by
  refine readCall_eq_none fun c rest hsame => ⟨?_, ?_⟩
  · rintro rfl
    exact Operand.append_ne_word h htail hword htext rfl (by decide) (by decide) hsame
  · by_contra hblank
    rw [Bool.not_eq_false] at hblank
    have hpath : isPathChar c = false := by
      by_contra hpath
      rw [isBlank_of_isPathChar (Bool.of_not_eq_false hpath)] at hblank
      contradiction
    refine Operand.append_ne_word h htail hword htext hpath ?_ ?_ hsame <;> rintro rfl <;>
      contradiction

/-- What is tested does not begin with a word and a bracket. -/
theorem stripPrefix?_operand (word after : List Char) (h : operand.IsWritable)
    (htail : FollowsOperand tail) (hword : ∀ c ∈ word, isPathChar c = true)
    (htext : word ≠ ['t', 'e', 'x', 't']) :
    stripPrefix? (word ++ '(' :: after) (operand.written ++ tail) = none := by
  rw [stripPrefix?_eq_none_iff]
  rintro ⟨rest, hsame⟩
  rw [List.append_assoc, List.cons_append] at hsame
  exact Operand.append_ne_word h htail hword htext rfl (by decide) (by decide) hsame.symm

/-- What begins with an operand and is no number is a test for equality or existence. -/
theorem readAtom_operand (h : operand.IsWritable) (htail : FollowsOperand tail)
    (hnumber : ∃ c ∈ operand.written ++ tail, isAsciiDigit c = false ∧ c ≠ '+') :
    readAtom (operand.written ++ tail) = readEquality (operand.written ++ tail) := by
  obtain ⟨c, hc, hdigit, hplus⟩ := hnumber
  have hlast : stripPrefix? "last()".toList (operand.written ++ tail) = none :=
    stripPrefix?_operand ['l', 'a', 's', 't'] [')'] h htail (by decide) (by decide)
  have hposition : stripPrefix? "position()".toList (operand.written ++ tail) = none :=
    stripPrefix?_operand ['p', 'o', 's', 'i', 't', 'i', 'o', 'n'] [')'] h htail (by decide)
      (by decide)
  have hcontains := readCall_operand "contains".toList h htail (by decide) (by decide)
  have hstartsWith := readCall_operand "starts-with".toList h htail (by decide) (by decide)
  rw [readAtom, naturalUpTo?_eq_none hc hdigit hplus]
  simp only [hlast, hposition, hcontains, hstartsWith]

theorem followsOperand_nil : FollowsOperand [] := fun _ hc => by contradiction

theorem followsOperand_equalityMark (negate : Bool) (s : List Char) :
    FollowsOperand (equalityMark negate ++ s) := by
  intro c hc
  cases negate with
  | false => exact Or.inl (Option.some.inj hc).symm
  | true => exact Or.inr (Option.some.inj hc).symm

/-- A comparison for equality is cut at its mark, and at nothing in the string. -/
theorem readEquality_equals (h : operand.IsWritable) (hvalue : IsQuotable value) (negate : Bool) :
    readEquality (operand.written ++ (equalityMark negate ++ literalText value)) =
      .ok (.equals operand value negate) := by
  have hoperand := Operand.balanced_written h
  have hliteral : Balanced (isPathChar · = true) (literalText value) := balanced_literalText hvalue
  have hread := Operand.read_written h
  have hstring := readLiteral_literalText value
  cases negate with
  | true =>
      have hsplit : splitTopLevel ['!', '='] true
          (operand.written ++ (['!', '='] ++ literalText value)) =
          [operand.written, literalText value] :=
        splitTopLevel_balanced_pair rfl hoperand (by decide) hliteral (by decide)
      simp only [readEquality, equalityMark, if_true, hsplit, hread, hstring]
      rfl
  | false =>
      have hwhole : Balanced (· ≠ '!') (operand.written ++ (['='] ++ literalText value)) :=
        (hoperand.mono fun _ hc => ne_of_isPathChar hc rfl).append
          (.plain rfl (by decide) (balanced_literalText hvalue))
      have hbang : IsWhole ['!', '='] (operand.written ++ (['='] ++ literalText value)) :=
        hwhole.isWhole (not_not.mpr rfl)
      have hsplit : splitTopLevel ['='] true (operand.written ++ (['='] ++ literalText value)) =
          [operand.written, literalText value] :=
        splitTopLevel_balanced_pair rfl hoperand (by decide) hliteral (by decide)
      simp only [readEquality, equalityMark, Bool.false_eq_true, if_false, hbang.splitTopLevel,
        hsplit, hread, hstring]
      rfl

/-- What is tested without a comparison is a test whether there is any. -/
theorem readEquality_has (h : operand.IsWritable) :
    readEquality operand.written = .ok (.has operand) := by
  have hbang : IsWhole ['!', '='] operand.written :=
    (Operand.balanced_written h).isWhole (by decide)
  have hequals : IsWhole ['='] operand.written := (Operand.balanced_written h).isWhole (by decide)
  simp only [readEquality, hbang.splitTopLevel, hequals.splitTopLevel, Operand.read_written h]
  rfl

/-- An operand that is a condition has a character of no number. -/
theorem Operand.exists_not_digit (h : operand.IsWritable) (hcondition : operand.IsCondition) :
    ∃ c ∈ operand.written, isAsciiDigit c = false ∧ c ≠ '+' := by
  cases operand with
  | «attribute» n => exact ⟨'@', List.mem_cons_self, rfl, by decide⟩
  | child n =>
      obtain ⟨c, hc, hdigit⟩ := List.all_eq_false.mp hcondition.1
      refine ⟨c, hc, Bool.eq_false_of_not_eq_true hdigit, ?_⟩
      exact ne_of_isPathChar (isPathChar_of_isNameChar (isNameChar_of_mem h hc)) rfl
  | text => exact ⟨'t', by decide, rfl, by decide⟩
  | self => exact ⟨'.', List.mem_cons_self, rfl, by decide⟩

/-- A test whether there is any is read. -/
theorem readAtom_has (h : operand.IsWritable) (hcondition : operand.IsCondition) :
    readAtom operand.written = .ok (.has operand) := by
  have hread := readAtom_operand h followsOperand_nil
    (by rw [List.append_nil]; exact Operand.exists_not_digit h hcondition)
  rw [List.append_nil] at hread
  rw [hread, readEquality_has h]

/-- A comparison with a literal is read. -/
theorem readAtom_equals (h : operand.IsWritable) (hvalue : IsQuotable value) (negate : Bool) :
    readAtom (Predicate.equals operand value negate).written =
      .ok (.equals operand value negate) := by
  have hmark : '=' ∈ equalityMark negate := by cases negate <;> decide
  refine Eq.trans (readAtom_operand h (followsOperand_equalityMark negate _) ⟨'=', ?_, rfl, ?_⟩)
    (readEquality_equals h hvalue negate)
  · exact List.mem_append_right _ (List.mem_append_left _ hmark)
  · decide

end Folio.Rule
