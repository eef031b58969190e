import Folio.Proofs.Rule.Balanced
import Folio.Proofs.Text.Number
import Folio.Proofs.Text.Quoted

/-!
# Folio.Proofs.Rule.PathText

Location paths as they are written: the text of a path, of its steps and of
their conditions, and which of them can be written at all (`IsWritable`).  What
is written is balanced, so that nothing in it is taken for a mark of what it
stands in: a string in quotes may hold any of the marks, a condition in brackets
may hold further brackets.
-/

namespace Folio.Rule

open Folio.Text

/-! ## Operands and strings -/

/-- The quotation mark that a string is written with: the single one unless the string
has it. -/
def markFor (value : String) : Char := if '\'' ∈ value.toList then '"' else '\''

/-- A string in quotation marks. -/
def literalText (value : String) : List Char :=
  markFor value :: (value.toList ++ [markFor value])

/-- The string does not have both quotation marks. -/
def IsQuotable (value : String) : Prop := ¬('\'' ∈ value.toList ∧ '"' ∈ value.toList)

/-- What a condition looks at, as it is written. -/
def Operand.written : Operand → List Char
  | .attribute name => '@' :: name.toList
  | .child name => name.toList
  | .text => "text()".toList
  | .self => ['.']

/-- The names can be names in a path. -/
def Operand.IsWritable : Operand → Prop
  | .attribute name => isPathName name.toList = true
  | .child name => isPathName name.toList = true
  | .text | .self => True

/-- The operand is a condition by itself: it is neither a number nor the word between two
conditions. -/
def Operand.IsCondition : Operand → Prop
  | .child name => name.toList.all isAsciiDigit = false ∧ name ≠ "or"
  | _ => True

/-! ## Conditions -/

/-- What stands between two conditions. -/
inductive Connective where
  | and
  | or
deriving DecidableEq, Repr

/-- A connective as it is written. -/
def Connective.mark : Connective → List Char
  | .and => " and ".toList
  | .or => " or ".toList

/-- The condition of two. -/
def Connective.join : Connective → Predicate → Predicate → Predicate
  | .and => .and
  | .or => .or

/-- A comparison as it is written. -/
def PositionOrder.mark : PositionOrder → List Char
  | .lt => ['<']
  | .le => ['<', '=']
  | .gt => ['>']
  | .ge => ['>', '=']
  | .eq => ['=']
  | .ne => ['!', '=']

/-- A comparison for equality as it is written. -/
def equalityMark (negate : Bool) : List Char := if negate then ['!', '='] else ['=']

/-- A call with an operand and a string. -/
def callText (name : List Char) (operand : Operand) (value : String) : List Char :=
  name ++ '(' :: (operand.written ++ ',' :: literalText value ++ [')'])

/-- A condition as it is written. -/
def Predicate.written : Predicate → List Char
  | .position n => (toString n).toList
  | .last offset =>
    "last()".toList ++ (if offset = 0 then [] else '-' :: (toString offset).toList)
  | .positionIs order n => "position()".toList ++ (order.mark ++ (toString n).toList)
  | .has operand => operand.written
  | .equals operand value negate => operand.written ++ (equalityMark negate ++ literalText value)
  | .contains operand value => callText "contains".toList operand value
  | .startsWith operand value => callText "starts-with".toList operand value
  | .not inner => "not".toList ++ '(' :: (inner.written ++ [')'])
  | .and left right => left.written ++ (Connective.and.mark ++ right.written)
  | .or left right => left.written ++ (Connective.or.mark ++ right.written)

/-- The last item is counted back from without an offset of nothing. -/
theorem Predicate.written_last (offset : Nat) : (Predicate.last offset).written =
    "last()".toList ++ (if offset = 0 then [] else '-' :: (toString offset).toList) := rfl

/-- How strongly a condition binds: there is nothing but `and` between the parts of a
conjunction, nothing but `or` between conjunctions. -/
inductive Strength where
  | atom
  | conjunction
  | disjunction

/-- The condition can be written, and binds so strongly.  Its numbers fit 64 bits, its strings
lack one of the quotation marks, and its connectives take the first of their sides first. -/
inductive Predicate.IsWritable : Strength → Predicate → Prop
  | position {n : Nat} (hpos : 1 ≤ n) (hmost : n ≤ Nat.pow 2 64 - 1) :
      IsWritable .atom (.position n)
  | last {offset : Nat} (hmost : offset ≤ Nat.pow 2 64 - 1) : IsWritable .atom (.last offset)
  | positionIs {order : PositionOrder} {n : Int} (hleast : -(Int.pow 2 63) ≤ n)
      (hmost : n ≤ Int.pow 2 63 - 1) : IsWritable .atom (.positionIs order n)
  | has {operand : Operand} (h : operand.IsWritable) (hcondition : operand.IsCondition) :
      IsWritable .atom (.has operand)
  | equals {operand : Operand} {value : String} {negate : Bool} (h : operand.IsWritable)
      (hvalue : IsQuotable value) : IsWritable .atom (.equals operand value negate)
  | contains {operand : Operand} {value : String} (h : operand.IsWritable)
      (hvalue : IsQuotable value) : IsWritable .atom (.contains operand value)
  | startsWith {operand : Operand} {value : String} (h : operand.IsWritable)
      (hvalue : IsQuotable value) : IsWritable .atom (.startsWith operand value)
  | not {inner : Predicate} (h : IsWritable .disjunction inner) : IsWritable .atom (.not inner)
  | atom {p : Predicate} (h : IsWritable .atom p) : IsWritable .conjunction p
  | and {left right : Predicate} (hleft : IsWritable .conjunction left)
      (hright : IsWritable .atom right) : IsWritable .conjunction (.and left right)
  | conjunction {p : Predicate} (h : IsWritable .conjunction p) : IsWritable .disjunction p
  | or {left right : Predicate} (hleft : IsWritable .disjunction left)
      (hright : IsWritable .conjunction right) : IsWritable .disjunction (.or left right)

/-! ## Paths -/

/-- What a step takes, as it is written. -/
def NodeTest.written : NodeTest → List Char
  | .name n => n.toList
  | .anyElement => ['*']
  | .text => "text()".toList
  | .attribute n => '@' :: n.toList
  | .anyAttribute => ['@', '*']
  | .self => ['.']
  | .parent => ['.', '.']

/-- The names can be names in a path. -/
def NodeTest.IsWritable : NodeTest → Prop
  | .name n => isPathName n.toList = true
  | .attribute n => isPathName n.toList = true
  | _ => True

/-- A step as it is written. -/
def PathStep.written (step : PathStep) : List Char :=
  step.test.written ++ step.predicates.flatMap fun p => '[' :: (p.written ++ [']'])

/-- The step can be written. -/
structure PathStep.IsWritable (step : PathStep) : Prop where
  test : step.test.IsWritable
  predicates : ∀ p ∈ step.predicates, p.IsWritable .disjunction

/-- What stands in front of a further step. -/
def PathStep.slashes (step : PathStep) : List Char := if step.descendant then ['/', '/'] else ['/']

/-- The first of the steps is nothing but a dot, which a slash follows. -/
def beginsDotted : List PathStep → Bool
  | first :: _ :: _ => first.test == .self && first.predicates.isEmpty
  | _ => false

/-- The first step is taken from everything inside. -/
def LocationPath.descends (path : LocationPath) : Bool :=
  (path.steps.head?.map (·.descendant)).getD false

/-- What stands in front of the first step.  A relative path that would begin with a dot
and a slash has a dot and a slash in front of these. -/
def LocationPath.lead (path : LocationPath) : List Char :=
  match path.absolute, path.descends with
  | true, false => ['/']
  | true, true => ['/', '/']
  | false, true => ['.', '/', '/']
  | false, false => if beginsDotted path.steps then ['.', '/'] else []

/-- Further steps as they are written. -/
def furtherText (steps : List PathStep) : List Char :=
  steps.flatMap fun step => step.slashes ++ step.written

/-- Steps as they are written, without what stands in front of the first. -/
def stepsText : List PathStep → List Char
  | [] => []
  | first :: rest => first.written ++ furtherText rest

/-- A path as it is written. -/
def LocationPath.written (path : LocationPath) : List Char := path.lead ++ stepsText path.steps

/-- The path can be written: so can its steps, and a relative path has some. -/
structure LocationPath.IsWritable (path : LocationPath) : Prop where
  steps : ∀ step ∈ path.steps, step.IsWritable
  relative : path.absolute = false → path.steps ≠ []

/-- Paths with bars between them. -/
def unionText (paths : List LocationPath) : List Char :=
  ['|'].intercalate (paths.map LocationPath.written)

/-! ## Characters -/

/-- A character of a name. -/
def isNameChar (c : Char) : Bool := isAsciiAlnum c || c == '-' || c == '_' || c == ':'

/-- A character of a name or of what stands for one. -/
def isPathChar (c : Char) : Bool := isNameChar c || c == '@' || c == '.' || c == '*'

/-- Characters of names stand in paths. -/
theorem isPathChar_of_isNameChar {c : Char} (h : isNameChar c = true) : isPathChar c = true := by
  rw [isPathChar, h]
  rfl

theorem ne_of_isPathChar {c d : Char} (hc : isPathChar c = true) (hd : isPathChar d = false) :
    c ≠ d := by
  rintro rfl
  rw [hd] at hc
  contradiction

/-- Characters of paths open and close nothing. -/
theorem isPlain_of_isPathChar {c : Char} (h : isPathChar c = true) : isPlain true c = true := by
  have hne (d : Char) (hd : isPathChar d = false) : (c == d) = false :=
    beq_eq_false_iff_ne.mpr (ne_of_isPathChar h hd)
  rw [isPlain, hne '[' rfl, hne '(' rfl, hne ']' rfl, hne ')' rfl, hne '\'' rfl, hne '"' rfl]
  rfl

theorem isBlank_of_isPathChar {c : Char} (h : isPathChar c = true) : isBlank c = false := by
  have hwithin {low high : Char} (h : low ≤ c ∧ c ≤ high) (hlow : 42 ≤ low.toNat)
      (hhigh : high.toNat ≤ 122) : 42 ≤ c.toNat ∧ c.toNat ≤ 122 :=
    ⟨hlow.trans h.1, Nat.le_trans h.2 hhigh⟩
  have hrange : 42 ≤ c.toNat ∧ c.toNat ≤ 122 := by
    simp only [isPathChar, isNameChar, isAsciiAlnum, isAsciiLetter, isAsciiDigit, Bool.or_eq_true,
      Bool.and_eq_true, decide_eq_true_eq, beq_iff_eq] at h
    rcases h with (((((((h | h) | h) | rfl) | rfl) | rfl) | rfl) | rfl) | rfl
    · exact hwithin h (by decide) (by decide)
    · exact hwithin h (by decide) (by decide)
    · exact hwithin h (by decide) (by decide)
    all_goals decide
  simp only [isBlank, Bool.or_eq_false_iff, Bool.and_eq_false_iff, decide_eq_false_iff_not,
    beq_eq_false_iff_ne]
  omega

/-- A name is not empty. -/
theorem isPathName_ne_nil {s : List Char} (h : isPathName s = true) : s ≠ [] := by
  rintro rfl
  contradiction

/-- A name is written in characters of names. -/
theorem isNameChar_of_mem {s : List Char} (h : isPathName s = true) {c : Char} (hc : c ∈ s) :
    isNameChar c = true := by
  rw [isPathName, Bool.and_eq_true, Bool.and_eq_true] at h
  exact List.all_eq_true.mp h.1.2 c hc

/-- Numbers are written in characters of paths. -/
theorem isPathChar_of_mem_toString {n : Int} {c : Char} (h : c ∈ (toString n).toList) :
    isPathChar c = true := by
  rcases eq_minus_or_isAsciiDigit_of_mem h with rfl | hdigit
  · rfl
  · simp [isPathChar, isNameChar, isAsciiAlnum, hdigit]

/-! ## Balance -/

section Balance

variable {p : Char → Prop} {value : String}

/-- A text in characters of paths has nothing to be closed. -/
theorem balanced_of_isPathChar {s : List Char} (h : ∀ c ∈ s, isPathChar c = true) :
    Balanced (isPathChar · = true) s :=
  .of_forall fun c hc => ⟨isPlain_of_isPathChar (h c hc), h c hc⟩

/-- A text in characters of paths has no blanks at its edges. -/
theorem hasEdges_of_isPathChar {s : List Char} (hne : s ≠ [])
    (h : ∀ c ∈ s, isPathChar c = true) : HasEdges s :=
  .of_forall hne fun c hc => isBlank_of_isPathChar (h c hc)

/-- A word with empty parentheses behind it. -/
theorem balanced_word_parentheses (word : List Char) (h : ∀ c ∈ word, isPathChar c = true) :
    Balanced (isPathChar · = true) (word ++ ['(', ')']) :=
  (balanced_of_isPathChar h).append (.bracketed (Or.inr ⟨rfl, rfl⟩) .nil .nil)

theorem balanced_text : Balanced (isPathChar · = true) "text()".toList :=
  balanced_word_parentheses ['t', 'e', 'x', 't'] (by decide)

theorem balanced_last : Balanced (isPathChar · = true) "last()".toList :=
  balanced_word_parentheses ['l', 'a', 's', 't'] (by decide)

theorem balanced_position : Balanced (isPathChar · = true) "position()".toList :=
  balanced_word_parentheses ['p', 'o', 's', 'i', 't', 'i', 'o', 'n'] (by decide)

theorem hasEdges_last : HasEdges "last()".toList := .of_forall (by decide) (by decide)

theorem hasEdges_position : HasEdges "position()".toList := .of_forall (by decide) (by decide)

theorem hasEdges_text : HasEdges "text()".toList := .of_forall (by decide) (by decide)

theorem hasEdges_contains : HasEdges "contains".toList := .of_forall (by decide) (by decide)

theorem hasEdges_startsWith : HasEdges "starts-with".toList := .of_forall (by decide) (by decide)

theorem hasEdges_not : HasEdges "not".toList := .of_forall (by decide) (by decide)

theorem hasEdges_closing : HasEdges [')'] := .singleton rfl

/-- A literal stands between quotation marks of one of the two kinds. -/
theorem markFor_eq (value : String) : markFor value = '\'' ∨ markFor value = '"' := by
  rw [markFor]
  split
  · exact Or.inr rfl
  · exact Or.inl rfl

/-- A literal does not hold the marks that it stands between. -/
theorem markFor_not_mem (h : IsQuotable value) : markFor value ∉ value.toList := by
  rw [markFor]
  split
  · next hsingle => exact fun hdouble => h ⟨hsingle, hdouble⟩
  · next hsingle => exact hsingle

/-- A literal is closed where it ends, whatever brackets and marks it holds. -/
theorem balanced_literalText (h : IsQuotable value) : Balanced p (literalText value) :=
  .quotation (markFor_eq value) (markFor_not_mem h)

/-- A literal begins and ends with its marks. -/
theorem hasEdges_literalText (value : String) : HasEdges (literalText value) := by
  have hblank : isBlank (markFor value) = false := by
    rcases markFor_eq value with hmark | hmark <;> rw [hmark] <;> rfl
  exact ⟨⟨_, _, rfl, hblank⟩, markFor value :: value.toList, _, rfl, hblank⟩

/-- The characters of an operand that stands for a name. -/
theorem Operand.isPathChar_of_mem {operand : Operand} (h : operand.IsWritable)
    (htext : operand ≠ .text) {c : Char} (hc : c ∈ operand.written) : isPathChar c = true := by
  cases operand with
  | «attribute» name =>
      rcases List.mem_cons.mp hc with rfl | hc
      · rfl
      · exact isPathChar_of_isNameChar (isNameChar_of_mem h hc)
  | child name => exact isPathChar_of_isNameChar (isNameChar_of_mem h hc)
  | text => contradiction
  | self => rw [List.mem_singleton.mp hc]; rfl

/-- What is tested is written. -/
theorem Operand.written_ne_nil {operand : Operand} (h : operand.IsWritable) :
    operand.written ≠ [] := by
  cases operand with
  | «attribute» name => exact List.cons_ne_nil _ _
  | child name => exact isPathName_ne_nil h
  | text => decide
  | self => exact List.cons_ne_nil _ _

/-- What is tested is written in characters of paths, and leaves nothing open. -/
theorem Operand.balanced_written {operand : Operand} (h : operand.IsWritable) :
    Balanced (isPathChar · = true) operand.written := by
  by_cases htext : operand = .text
  · rw [htext]
    exact balanced_text
  · exact balanced_of_isPathChar fun c hc => Operand.isPathChar_of_mem h htext hc

/-- What is tested has no blanks at its edges. -/
theorem Operand.hasEdges_written {operand : Operand} (h : operand.IsWritable) :
    HasEdges operand.written := by
  by_cases htext : operand = .text
  · rw [htext]
    exact hasEdges_text
  · exact hasEdges_of_isPathChar (written_ne_nil h)
      fun c hc => Operand.isPathChar_of_mem h htext hc

/-- What stands outside brackets and quotes: no blanks, where there are no connectives. -/
def Strength.Outside : Strength → Char → Prop
  | .atom, c => c ≠ ' '
  | _, _ => True

theorem Strength.outside_of_atom {strength : Strength} {c : Char} (h : c ≠ ' ') :
    strength.Outside c := by
  cases strength with
  | atom => exact h
  | conjunction => trivial
  | disjunction => trivial

/-- A call is closed where it ends. -/
theorem balanced_callText {name : List Char} {operand : Operand}
    (hname : ∀ c ∈ name, isPathChar c = true) (h : operand.IsWritable) (hvalue : IsQuotable value) :
    Balanced (isPathChar · = true) (callText name operand value) := by
  have hcomma : Balanced (fun _ => True) (',' :: literalText value) :=
    .plain rfl trivial (balanced_literalText hvalue)
  have hinside : Balanced (fun _ => True) (operand.written ++ ',' :: literalText value) :=
    ((Operand.balanced_written h).mono fun _ _ => trivial).append hcomma
  exact (balanced_of_isPathChar hname).append (.bracket (Or.inr ⟨rfl, rfl⟩) hinside)

/-- The marks of the orders open nothing and hold no blanks. -/
theorem PositionOrder.mark_plain (order : PositionOrder) :
    ∀ c ∈ order.mark, isPlain true c = true ∧ c ≠ ' ' := by
  cases order <;> decide

/-- Nor do the marks of equality. -/
theorem equalityMark_plain (negate : Bool) :
    ∀ c ∈ equalityMark negate, isPlain true c = true ∧ c ≠ ' ' := by
  cases negate <;> decide

theorem Connective.balanced_mark (connective : Connective) :
    Balanced (fun _ => True) connective.mark := by
  refine .of_forall fun c hc => ⟨?_, trivial⟩
  cases connective with
  | and => exact (by decide : ∀ c ∈ " and ".toList, isPlain true c = true) c hc
  | or => exact (by decide : ∀ c ∈ " or ".toList, isPlain true c = true) c hc

/-- A text in characters of paths may stand outside brackets at every strength. -/
theorem Balanced.outside {strength : Strength} {s : List Char}
    (h : Balanced (isPathChar · = true) s) : Balanced strength.Outside s :=
  h.mono fun _ hc => Strength.outside_of_atom (ne_of_isPathChar hc rfl)

/-- So may a text of plain characters without blanks. -/
theorem Balanced.of_plain {strength : Strength} {s : List Char}
    (h : ∀ c ∈ s, isPlain true c = true ∧ c ≠ ' ') : Balanced strength.Outside s :=
  .of_forall fun c hc => ⟨(h c hc).1, Strength.outside_of_atom (h c hc).2⟩

/-- A number leaves nothing open. -/
theorem balanced_number (n : Int) : Balanced (isPathChar · = true) (toString n).toList :=
  balanced_of_isPathChar fun _ hc => isPathChar_of_mem_toString hc

/-- **Balance.**  A condition closes what it opens, and without connectives it has no blanks
outside brackets and quotes. -/
theorem Predicate.balanced_written {strength : Strength} {condition : Predicate}
    (h : condition.IsWritable strength) : Balanced strength.Outside condition.written := by
  induction h with
  | @position n _ _ => exact (balanced_number n).outside
  | @last offset _ =>
      refine balanced_last.outside.append ?_
      split
      · exact .nil
      · exact .plain rfl (Strength.outside_of_atom (by decide)) (balanced_number offset).outside
  | @positionIs order n _ _ =>
      exact balanced_position.outside.append
        (.append (.of_plain order.mark_plain) (balanced_number n).outside)
  | has h _ => exact (Operand.balanced_written h).outside
  | @equals operand value negate h hvalue =>
      exact (Operand.balanced_written h).outside.append
        (.append (.of_plain (equalityMark_plain negate)) (balanced_literalText hvalue))
  | contains h hvalue => exact (balanced_callText (by decide) h hvalue).outside
  | startsWith h hvalue => exact (balanced_callText (by decide) h hvalue).outside
  | not _ ih =>
      exact Balanced.append (.outside (balanced_of_isPathChar (by decide)))
        (.bracket (Or.inr ⟨rfl, rfl⟩) ih)
  | atom _ ih => exact ih.mono fun _ _ => trivial
  | and _ _ ihleft ihright =>
      exact ihleft.append (Connective.and.balanced_mark.append (ihright.mono fun _ _ => trivial))
  | conjunction _ ih => exact ih
  | or _ _ ihleft ihright =>
      exact ihleft.append (Connective.or.balanced_mark.append ihright)

/-- A number has no blanks at its edges. -/
theorem hasEdges_number (n : Int) : HasEdges (toString n).toList := by
  obtain ⟨c, rest, hcons, -⟩ := exists_toString_int_eq_cons n
  refine hasEdges_of_isPathChar ?_ fun _ hc => isPathChar_of_mem_toString hc
  rw [hcons]
  exact List.cons_ne_nil c rest

/-- A call has no blanks at its edges if its name has none. -/
theorem hasEdges_callText {name : List Char} (hname : HasEdges name) (operand : Operand)
    (value : String) : HasEdges (callText name operand value) := by
  have hend := hname.between hasEdges_closing ('(' :: (operand.written ++ ',' :: literalText value))
  rw [callText]
  simpa only [List.cons_append, List.append_assoc] using hend

/-- A condition has no blanks at its edges. -/
theorem Predicate.hasEdges_written {strength : Strength} {condition : Predicate}
    (h : condition.IsWritable strength) : HasEdges condition.written := by
  induction h with
  | @position n _ _ => exact hasEdges_number n
  | @last offset _ =>
      rw [Predicate.written_last]
      split
      · exact hasEdges_last
      · exact hasEdges_last.between (hasEdges_number offset) ['-']
  | @positionIs order n _ _ => exact hasEdges_position.between (hasEdges_number n) order.mark
  | has h _ => exact Operand.hasEdges_written h
  | @equals operand value negate h hvalue =>
      exact (Operand.hasEdges_written h).between (hasEdges_literalText value) _
  | @contains operand value _ _ => exact hasEdges_callText hasEdges_contains operand value
  | @startsWith operand value _ _ => exact hasEdges_callText hasEdges_startsWith operand value
  | @not inner _ _ => exact hasEdges_not.between hasEdges_closing ('(' :: inner.written)
  | atom _ ih => exact ih
  | and _ _ ihleft ihright => exact ihleft.between ihright _
  | conjunction _ ih => exact ih
  | or _ _ ihleft ihright => exact ihleft.between ihright _

/-! ## Steps and paths -/

/-- All node tests but that of texts are written in characters of paths. -/
theorem NodeTest.isPathChar_of_mem {test : NodeTest} (h : test.IsWritable) (htext : test ≠ .text)
    {c : Char} (hc : c ∈ test.written) : isPathChar c = true := by
  cases test with
  | name n => exact isPathChar_of_isNameChar (isNameChar_of_mem h hc)
  | «attribute» n =>
      rcases List.mem_cons.mp hc with rfl | hc
      · rfl
      · exact isPathChar_of_isNameChar (isNameChar_of_mem h hc)
  | text => contradiction
  | anyElement => exact (show ∀ c ∈ ['*'], isPathChar c = true by decide) c hc
  | anyAttribute => exact (show ∀ c ∈ ['@', '*'], isPathChar c = true by decide) c hc
  | self => exact (show ∀ c ∈ ['.'], isPathChar c = true by decide) c hc
  | parent => exact (show ∀ c ∈ ['.', '.'], isPathChar c = true by decide) c hc

/-- A node test is written. -/
theorem NodeTest.written_ne_nil {test : NodeTest} (h : test.IsWritable) : test.written ≠ [] := by
  cases test with
  | name n => exact isPathName_ne_nil h
  | text => decide
  | «attribute» n => exact List.cons_ne_nil _ _
  | anyElement => exact List.cons_ne_nil _ _
  | anyAttribute => exact List.cons_ne_nil _ _
  | self => exact List.cons_ne_nil _ _
  | parent => exact List.cons_ne_nil _ _

/-- A node test leaves nothing open. -/
theorem NodeTest.balanced_written {test : NodeTest} (h : test.IsWritable) :
    Balanced (isPathChar · = true) test.written := by
  by_cases htext : test = .text
  · rw [htext]
    exact balanced_text
  · exact balanced_of_isPathChar fun c hc => NodeTest.isPathChar_of_mem h htext hc

/-- A node test has no blanks at its edges. -/
theorem NodeTest.hasEdges_written {test : NodeTest} (h : test.IsWritable) :
    HasEdges test.written := by
  by_cases htext : test = .text
  · rw [htext]
    exact hasEdges_text
  · exact hasEdges_of_isPathChar (written_ne_nil h)
      fun c hc => NodeTest.isPathChar_of_mem h htext hc

/-- A step leaves nothing open, for its predicates stand in brackets. -/
theorem PathStep.balanced_written {step : PathStep} (h : step.IsWritable) :
    Balanced (isPathChar · = true) step.written :=
  (NodeTest.balanced_written h.test).append <| .flatMap fun p hp =>
    .bracket (Or.inl ⟨rfl, rfl⟩) (Predicate.balanced_written (h.predicates p hp))

/-- A step has no blanks at its edges. -/
theorem PathStep.hasEdges_written {step : PathStep} (h : step.IsWritable) :
    HasEdges step.written := by
  have htest := NodeTest.hasEdges_written h.test
  rw [PathStep.written]
  rcases List.eq_nil_or_concat step.predicates with hnil | ⟨front, p, hconcat⟩
  · rw [hnil, List.flatMap_nil, List.append_nil]
    exact htest
  · have hclosing : HasEdges [']'] := .singleton rfl
    rw [hconcat, List.concat_eq_append, List.flatMap_append, List.flatMap_singleton,
      ← List.cons_append, ← List.append_assoc _ _ [']']]
    exact htest.between hclosing _

end Balance

end Folio.Rule
