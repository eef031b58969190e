import Folio.Regex.Replace
import Folio.Rule.Expr
import Folio.Rule.JsonPath
import Folio.Rule.Leaf
import Folio.Rule.LocationPath
import Folio.Rule.Subject
import Folio.Script.Evaluator

/-!
# Folio.Rule.Evaluation

Evaluating rules.  `elements` selects subjects, `texts` extracts texts; in both
the first alternative with a result wins, and an alternative that fails is
reported and counts as empty.  A script is given what its head selects, and its
output is the subject of its tail.
-/

namespace Folio.Rule

open Folio.Text Folio.Markup Folio.Script

/-! ## Affixes -/

/-- Rewrite texts by an affix.  The pattern is read only when there is a text
to rewrite. -/
def Affix.rewrite (affix : Affix) (values : List String) : Except Failure (List String) :=
  if values.isEmpty then .ok []
  else
    match Regex.program? affix.pattern with
    | none => .error (.pattern affix.pattern)
    | some program => .ok (values.map (program.replaceAll affix.replacement))

/-- Rewrite texts by the affix of an alternative, if it has one. -/
def Alternative.rewrite (a : Alternative) (values : List String) : Except Failure (List String) :=
  match a.affix with
  | none => .ok values
  | some affix => affix.rewrite values

/-- The subject with its source rewritten. -/
def Alternative.rewriteSubject (a : Alternative) (s : Subject) : Except Failure Subject :=
  match a.affix with
  | none => .ok s
  | some affix => do
    let sources ← affix.rewrite [s.source]
    return s.withSource ("".intercalate sources)

/-! ## The dialect -/

/-- The dialect an alternative is evaluated in.  One that no marker names is a
JSON path when it is applied to a text that is JSON; an empty body and `text`
take the text itself. -/
def Alternative.dialectFor (a : Alternative) (s : Subject) : Dialect :=
  if a.marked || a.dialect != .structural || a.body == "" || a.body == "text" then a.dialect
  else
    match s with
    | .text content => if looksLikeJson content then .json else .structural
    | _ => .structural

/-! ## Selecting subjects -/

/-- A path that ends on an array selects its items. -/
def spread : List Json → List Json
  | [.array items] => items
  | values => values

/-- The subjects that a location path selects. -/
def pathSubjects (s : Subject) (expression : String) : Except Failure (List Subject) :=
  match s.root? with
  | none => .ok []
  | some root => do
    let results ← (evaluatePath root expression.toList).mapError Failure.path
    return (results.map fun
      | .element place => Subject.path (Excerpt.ofPlace place)
      | .text content => Subject.text content).filter (!·.isEmpty)

/-- The subjects that a JSON path selects. -/
def jsonSubjects (s : Subject) (path : String) : Except Failure (List Subject) := do
  let document ← (readJson s.source).mapError Failure.json
  let values ← (queryJson document path).mapError Failure.json
  return ((spread values).map fun v => Subject.text (valueText v)).filter (!·.isEmpty)

/-- The subjects that a cascade selects; without steps the subject itself. -/
def cascadeSubjects (s : Subject) (steps : List (List Char)) : Except Failure (List Subject) :=
  if steps.isEmpty then .ok [s]
  else
    match s.root? with
    | none => .ok []
    | some root => do
      let places ← selectCascade root steps
      return places.map fun place => Subject.markup (Excerpt.ofPlace place)

/-- The subjects that an alternative selects. -/
def Alternative.elements (s : Subject) (a : Alternative) : Except Failure (List Subject) := do
  let s ← a.rewriteSubject s
  match a.dialectFor s with
  | .structural => cascadeSubjects s a.steps
  | .path => pathSubjects s a.body
  | .json => jsonSubjects s a.body

/-! ## Extracting texts -/

/-- What an element becomes where a rule names no leaf: its text or its
markup. -/
inductive Render where
  | text
  | markup
deriving DecidableEq, Repr

/-- The leaf that a rendering stands for. -/
def Render.leaf : Render → Leaf
  | text => .flatText
  | markup => .markup

/-- The text of an element. -/
def Render.apply (r : Render) (place : Place) : String :=
  match r with
  | text => flatText place.node
  | markup => place.outer

/-- The texts that a cascade extracts. -/
def cascadeTexts (s : Subject) (steps : List (List Char)) (base : String) (r : Render) :
    Except Failure (List String) :=
  match steps.getLast? with
  | none =>
    match s with
    | .text content => .ok [content]
    | _ =>
      match s.root? with
      | none => .ok []
      | some root => extractLeaf base [root] r.leaf
  | some leaf =>
    let selectors := steps.dropLast
    let takesAll := selectors.isEmpty && leaf == "text".toList
    match s, takesAll with
    | .text content, true => .ok [content]
    | _, _ =>
      match s.root? with
      | none => .ok []
      | some root => do
        let elements ← selectCascade root selectors
        if elements.isEmpty then return []
        extractLeaf base elements (Leaf.read leaf)

/-- The texts that a location path extracts. -/
def pathTexts (s : Subject) (expression : String) (r : Render) : Except Failure (List String) :=
  match s.root? with
  | none => .ok []
  | some root => do
    let results ← (evaluatePath root expression.toList).mapError Failure.path
    return results.map fun
      | .element place => r.apply place
      | .text content => content

/-- The texts that a JSON path extracts. -/
def jsonTexts (s : Subject) (path : String) : Except Failure (List String) := do
  let document ← (readJson s.source).mapError Failure.json
  let values ← (queryJson document path).mapError Failure.json
  return values.map valueText

/-- The texts that an alternative extracts, without the empty ones. -/
def Alternative.texts (s : Subject) (base : String) (r : Render) (a : Alternative) :
    Except Failure (List String) := do
  let values ← match a.dialectFor s with
    | .structural => cascadeTexts s a.steps base r
    | .path => pathTexts s a.body r
    | .json => jsonTexts s a.body
  let values ← a.rewrite values
  return values.filter (· != "")

/-! ## Rules -/

/-- The results of the first alternative that has any; failures are
reported. -/
def firstResults {α : Type} (evaluate : Alternative → Except Failure (List α)) :
    List Alternative → Traced (List α)
  | [] => pure []
  | a :: rest =>
    match evaluate a with
    | .ok [] => firstResults evaluate rest
    | .ok results => pure results
    | .error failure => do
      Traced.emit (.ruleFailed failure a.body)
      firstResults evaluate rest

/-- The output of a script of a rule. -/
def scriptOutput (e : Evaluator) (script : String) (input : Input) (base : String) :
    Traced (List String) := do
  let value ← e.run script (Bindings.of input base)
  pure value.texts

/-- The subjects that a rule selects. -/
def Expr.elements (e : Evaluator) (base : String) : Expr → Subject → Traced (List Subject)
  | .alternatives list, s => firstResults (Alternative.elements s) list
  | .scripted head script tail, s => do
    let input ← match head with
      | none => pure (Input.text s.source)
      | some head => do
        let selected ← head.elements e base s
        pure (Input.list (selected.map Subject.source))
    let output ← scriptOutput e script input base
    let subjects := (output.filter fun text => !isBlankText text).map Subject.text
    match tail with
    | none => pure subjects
    | some tail => Traced.flatEach (tail.elements e base) subjects

/-- The texts that a rule extracts. -/
def Expr.texts (e : Evaluator) (base : String) (r : Render) : Expr → Subject → Traced (List String)
  | .alternatives list, s => firstResults (Alternative.texts s base r) list
  | .scripted head script tail, s => do
    let input ← match head with
      | none => pure s.source
      | some head => do
        let values ← head.texts e base r s
        pure ("\n".intercalate values)
    let output ← scriptOutput e script (.text input) base
    match tail with
    | none => pure (output.filter (· != ""))
    | some tail => Traced.flatEach (fun text => tail.texts e base r (.text text)) output

/-! ## Rules as they are written -/

/-- The subjects that a rule selects; a blank rule selects none. -/
def elements (e : Evaluator) (base : String) (s : Subject) (rule : String) :
    Traced (List Subject) :=
  if isBlankText rule then pure [] else (Expr.read rule).elements e base s

/-- The texts that a rule extracts. -/
def texts (e : Evaluator) (base : String) (s : Subject) (rule : String) : Traced (List String) :=
  (Expr.read rule).texts e base .text s

/-- The text that a rule extracts; several are joined by line feeds. -/
def text (e : Evaluator) (base : String) (s : Subject) (rule : String) : Traced String := do
  let values ← texts e base s rule
  pure ("\n".intercalate values)

/-- The text that a rule extracts, with the markup of elements in place of their
text where it names no leaf. -/
def markup (e : Evaluator) (base : String) (s : Subject) (rule : String) : Traced String := do
  let values ← (Expr.read rule).texts e base .markup s
  pure ("\n".intercalate values)

/-- The first line of a text that is not blank, without blanks around it. -/
def firstLine (s : String) : String :=
  String.ofList ((((lines s.toList).map trim).find? (!·.isEmpty)).getD [])

/-- The link that a rule extracts, resolved against the base. -/
def url (e : Evaluator) (base : String) (s : Subject) (rule : String) : Traced String := do
  let value ← text e base s rule
  pure (absoluteUrl base (firstLine value))

end Folio.Rule
