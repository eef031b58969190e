/-!
# Folio.Text.Search

Finding, cutting and replacing fixed pieces of text.  `cut?` cuts a text at
the first place where a pattern stands; the other operations repeat it from
left to right, never looking twice at a character they used.
-/

namespace Folio.Text

/-! ## One occurrence -/

/-- What follows `pat` in a text that begins with it. -/
def stripPrefix? : List Char → List Char → Option (List Char)
  | [], s => some s
  | _ :: _, [] => none
  | p :: ps, c :: cs => if p = c then stripPrefix? ps cs else none

/-- What stands before and after the first occurrence of `pat`. -/
def cut? (pat : List Char) : List Char → Option (List Char × List Char)
  | [] => (stripPrefix? pat []).map fun rest => ([], rest)
  | c :: cs =>
    match stripPrefix? pat (c :: cs) with
    | some rest => some ([], rest)
    | none => (cut? pat cs).map fun (before, after) => (c :: before, after)

/-- The pattern stands somewhere in the text. -/
def contains (pat s : List Char) : Bool := (cut? pat s).isSome

/-- The text begins with the pattern. -/
def startsWith (pat s : List Char) : Bool := (stripPrefix? pat s).isSome

/-- The text ends with the pattern. -/
def endsWith (pat s : List Char) : Bool := startsWith pat.reverse s.reverse

/-- What stands before `pat` in a text that ends with it. -/
def stripSuffix? (pat s : List Char) : Option (List Char) :=
  (stripPrefix? pat.reverse s.reverse).map List.reverse

/-- The inside of a text that the same character begins and ends. -/
def quotedBy? (quote : Char) (s : List Char) : Option (List Char) :=
  (stripPrefix? [quote] s).bind (stripSuffix? [quote])

/-! ## Laws of one occurrence -/

theorem eq_append_of_stripPrefix? {pat s rest : List Char}
    (h : stripPrefix? pat s = some rest) : s = pat ++ rest := by
  induction pat generalizing s with
  | nil => simp only [stripPrefix?, Option.some.injEq] at h; simp [h]
  | cons p ps ih =>
    cases s with
    | nil => simp [stripPrefix?] at h
    | cons c cs =>
      simp only [stripPrefix?] at h
      split at h
      · next hpc => simp [hpc, ih h]
      · simp at h

@[simp] theorem stripPrefix?_append (pat rest : List Char) :
    stripPrefix? pat (pat ++ rest) = some rest := by
  induction pat with
  | nil => rfl
  | cons p ps ih => simp [stripPrefix?, ih]

theorem eq_append_of_cut? {pat s before after : List Char}
    (h : cut? pat s = some (before, after)) : s = before ++ (pat ++ after) := by
  induction s generalizing before with
  | nil =>
    simp only [cut?, Option.map_eq_some_iff, Prod.mk.injEq] at h
    obtain ⟨rest, hr, rfl, rfl⟩ := h
    simpa using eq_append_of_stripPrefix? hr
  | cons c cs ih =>
    rw [cut?] at h
    split at h
    · next rest hr =>
      simp only [Option.some.injEq, Prod.mk.injEq] at h
      obtain ⟨rfl, rfl⟩ := h
      simpa using eq_append_of_stripPrefix? hr
    · simp only [Option.map_eq_some_iff, Prod.mk.injEq, Prod.exists] at h
      obtain ⟨b, a, hc, rfl, rfl⟩ := h
      rw [List.cons_append, ← ih hc]

/-! ## Repeated occurrences -/

theorem length_lt_of_cut? {pat s before after : List Char} (hp : pat ≠ [])
    (h : cut? pat s = some (before, after)) : after.length < s.length := by
  have hs := congrArg List.length (eq_append_of_cut? h)
  have : 0 < pat.length := List.length_pos_iff.2 hp
  simp only [List.length_append] at hs
  omega

/-- The pieces of the text between the occurrences of `p :: ps`. -/
def splitOn (p : Char) (ps : List Char) (s : List Char) : List (List Char) :=
  match _h : cut? (p :: ps) s with
  | none => [s]
  | some (before, after) => before :: splitOn p ps after
termination_by s.length
decreasing_by exact length_lt_of_cut? (by simp) _h

/-- The text with every occurrence of `pat` exchanged for `sub`, from left to
right.  An empty pattern stands before every character and at the end. -/
def replaceAll (pat sub : List Char) (s : List Char) : List Char :=
  match pat with
  | [] => sub ++ s.flatMap fun c => c :: sub
  | p :: ps => sub.intercalate (splitOn p ps s)

/-- The pieces of the text between the characters of class `p`. -/
def splitWhere (p : Char → Bool) : List Char → List (List Char)
  | [] => [[]]
  | c :: cs =>
    if p c then [] :: splitWhere p cs
    else match splitWhere p cs with
      | [] => [[c]]
      | piece :: rest => (c :: piece) :: rest

/-- A line without the carriage return that may end it. -/
def stripReturn (line : List Char) : List Char :=
  match line.getLast? with
  | some '\r' => line.dropLast
  | _ => line

/-- The lines of a text: a line ends at a line feed, which may follow a
carriage return, and the text after the last line feed is a line only when it
is not empty. -/
def lines (s : List Char) : List (List Char) :=
  match (splitWhere (· == '\n') s).reverse with
  | [] => []
  | last :: rest =>
    (rest.map stripReturn).reverse ++ (if last.isEmpty then [] else [last])

end Folio.Text
