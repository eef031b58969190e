import Folio.Rule.Split
import Folio.Script.Envelope

/-!
# Folio.Rule.Expr

Rules as expressions.  A rule is a sequence of alternatives parted by `||`, or
a script between an optional rule that feeds it and an optional rule for what
it returns.  Reading a rule never fails: it only cuts the text, and selectors,
paths and patterns are read when an alternative is evaluated, so that a
malformed alternative cannot disturb one before it.
-/

namespace Folio.Rule

open Folio.Text Folio.Script

/-! ## Alternatives -/

/-- The languages an alternative can be written in: a cascade of structural
steps, a location path, or a JSON path. -/
inductive Dialect where
  | structural
  | path
  | json
deriving DecidableEq, Repr

/-- A regular expression whose matches are replaced in every extracted text. -/
structure Affix where
  pattern : String
  replacement : String
deriving DecidableEq, Repr

/-- One alternative of a rule. -/
structure Alternative where
  dialect : Dialect
  /-- The dialect was named by a marker. -/
  marked : Bool
  /-- The text without marker and affix. -/
  body : String
  affix : Option Affix
deriving DecidableEq, Repr

/-- The mark before a pattern and before its replacement. -/
def affixMark : List Char := "##".toList

/-- The text before an affix, and the affix.  An affix with an empty pattern
is none. -/
def splitAffix (raw : List Char) : List Char × Option Affix :=
  match cut? affixMark raw with
  | none => (raw, none)
  | some (body, rest) =>
    let (pattern, replacement) := (cut? affixMark rest).getD (rest, [])
    (body, if pattern.isEmpty then none
      else some ⟨String.ofList pattern, String.ofList replacement⟩)

/-- The dialect of a body, whether a marker names it, and the body without
the marker.  Without a marker a leading `/` or `./` tells a location path and
a leading `$.` or `$[` a JSON path. -/
def classify (body : List Char) : Dialect × Bool × List Char :=
  match stripPrefix? "@css:".toList body with
  | some rest => (.structural, true, rest)
  | none =>
    match stripPrefix? "@xpath:".toList body with
    | some rest => (.path, true, rest)
    | none =>
      match stripPrefix? "@json:".toList body with
      | some rest => (.json, true, rest)
      | none =>
        if startsWith ['/'] body || startsWith ['.', '/'] body then (.path, false, body)
        else if startsWith ['$', '.'] body || startsWith ['$', '['] body then
          (.json, false, body)
        else (.structural, false, body)

/-- Read one alternative. -/
def Alternative.read (raw : List Char) : Alternative :=
  let (body, affix) := splitAffix (trim raw)
  let (dialect, marked, body) := classify (trim body)
  ⟨dialect, marked, String.ofList (trim body), affix⟩

/-- The mark between two steps of a cascade. -/
def stepMark : List Char := ['@']

/-- The steps of a structural body, without the empty ones. -/
def cascade (body : List Char) : List (List Char) :=
  ((splitTopLevel stepMark false body).map trim).filter (!·.isEmpty)

/-- The steps of a structural alternative. -/
def Alternative.steps (a : Alternative) : List (List Char) := cascade a.body.toList

/-! ## Rules -/

/-- The mark between two alternatives. -/
def alternativeMark : List Char := ['|', '|']

/-- A rule. -/
inductive Expr where
  | alternatives (list : List Alternative)
  | scripted (head : Option Expr) (script : String) (tail : Option Expr)
deriving Repr

/-- The text that feeds a script: what stands before it without the marks that
join them. -/
def headText (before : List Char) : List Char :=
  trim (dropEndWhile (· == '@') (trim before))

/-- The rule for a script's result: what stands after it without the marks
that join them. -/
def tailText (after : List Char) : List Char :=
  trim ((trim after).dropWhile (· == '@'))

theorem length_headText_le (s : List Char) : (headText s).length ≤ s.length :=
  Nat.le_trans (length_trim_le _) (Nat.le_trans (length_dropEndWhile_le _ _) (length_trim_le _))

theorem length_tailText_le (s : List Char) : (tailText s).length ≤ s.length :=
  Nat.le_trans (length_trim_le _)
    (Nat.le_trans (List.dropWhile_sublist _).length_le (length_trim_le _))

/-- The alternatives of a rule without a script. -/
def readAlternatives (rule : List Char) : List Alternative :=
  (splitTopLevel alternativeMark false rule).map Alternative.read

/-- Read a rule.  Each part of a scripted rule is shorter than the whole. -/
def readChars (rule : List Char) : Expr :=
  let text := trim rule
  match _h : Envelope.find? true text with
  | none => .alternatives (readAlternatives text)
  | some e =>
    let head := headText e.before
    let tail := tailText e.after
    .scripted
      (if head = [] then none else some (readChars head))
      (String.ofList e.script)
      (if tail = [] then none else some (readChars tail))
termination_by rule.length
decreasing_by
  · have h₁ := (Envelope.find?_shorter _h).1
    have h₂ := length_headText_le e.before
    have h₃ : text.length ≤ rule.length := length_trim_le rule
    omega
  · have h₁ := (Envelope.find?_shorter _h).2
    have h₂ := length_tailText_le e.after
    have h₃ : text.length ≤ rule.length := length_trim_le rule
    omega

/-- Read a rule. -/
def Expr.read (rule : String) : Expr := readChars rule.toList

/-! ## The default leaf -/

/-- The alternative is a cascade of one step. -/
def Alternative.isSingleStep (a : Alternative) : Bool :=
  a.dialect == .structural && a.steps.length == 1

/-- Append a step to an alternative, in front of its affix. -/
def appendStep (leaf : List Char) (raw : List Char) : List Char :=
  let raw := trim raw
  match cut? affixMark raw with
  | some (before, _) => trimEnd before ++ '@' :: (leaf ++ raw.drop before.length)
  | none => raw ++ '@' :: leaf

/-- Give every alternative that is a cascade of one step the last step `leaf`.
A rule that holds a script is left as it is. -/
def withDefaultLeaf (rule leaf : String) : String :=
  if (Envelope.find? true rule.toList).isSome then rule
  else
    let parts := (splitTopLevel alternativeMark false (trim rule.toList)).map fun raw =>
      if (Alternative.read raw).isSingleStep then appendStep leaf.toList raw else trim raw
    String.ofList (alternativeMark.intercalate parts)

end Folio.Rule
