/-!
# Folio.Rule.Failure

Why an alternative of a rule cannot be evaluated.  A failure makes the
alternative empty and is reported; it never stops a rule.  One thing stops the
whole program instead, a sum that is no word (`Failure.isStop`).
-/

namespace Folio.Rule

/-- What is wrong with a location path. -/
inductive PathFailure where
  | emptyExpression
  | noSteps (expression : String)
  | unsupportedStep (test : String)
  | unexpected (rest : String)
  | unclosedPredicate (predicates : String)
  | positionZero
  | unsupportedPredicate (predicate : String)
  | badPosition (predicate : String)
  | twoArguments (function : String)
  | unsupportedOperand (operand : String)
  | unquoted (literal : String)
  /-- A position and an offset add up to more than a word.  This stops the
  program, not just the alternative. -/
  | overflow
deriving DecidableEq, Repr

/-- The wording of a failure. -/
def PathFailure.message : PathFailure → String
  | emptyExpression => "empty expression"
  | noSteps e => "no steps in `" ++ e ++ "`"
  | unsupportedStep t => "unsupported step `" ++ t ++ "`"
  | unexpected r => "unexpected `" ++ r ++ "`"
  | unclosedPredicate p => "unclosed predicate in `" ++ p ++ "`"
  | positionZero => "positions start at 1"
  | unsupportedPredicate p => "unsupported predicate `" ++ p ++ "`"
  | badPosition p => "bad position in `" ++ p ++ "`"
  | twoArguments f => f ++ "() takes two arguments"
  | unsupportedOperand o => "unsupported operand `" ++ o ++ "`"
  | unquoted l => "expected a quoted string, got `" ++ l ++ "`"
  | overflow => "attempt to add with overflow"

/-- What is wrong with a JSON path or with the text it is applied to. -/
inductive JsonFailure where
  | notJson
  | missingKey (path : String)
  | emptyKey (path : String)
  | unclosedBracket (path : String)
  | unexpected (rest path : String)
  | unsupportedSelector (selector path : String)
deriving DecidableEq, Repr

/-- The wording of a failure. -/
def JsonFailure.message : JsonFailure → String
  | notJson => ""
  | missingKey p => "missing key after `..` in `" ++ p ++ "`"
  | emptyKey p => "empty key in `" ++ p ++ "`"
  | unclosedBracket p => "unclosed `[` in `" ++ p ++ "`"
  | unexpected r p => "unexpected `" ++ r ++ "` in `" ++ p ++ "`"
  | unsupportedSelector s p => "unsupported selector `[" ++ s ++ "]` in `" ++ p ++ "`"

/-- Why an alternative cannot be evaluated. -/
inductive Failure where
  /-- A step is no selector; the selector as it was read. -/
  | selector (text : String)
  /-- An affix is no regular expression. -/
  | pattern (text : String)
  /-- A step asks for a range of positions. -/
  | range (text : String)
  | path (failure : PathFailure)
  | json (failure : JsonFailure)
deriving DecidableEq, Repr

/-- The program stops here. -/
def Failure.isStop : Failure → Bool
  | path .overflow => true
  | _ => false

end Folio.Rule
