import Folio.Json.Printer
import Folio.Json.Reader
import Folio.Rule.Failure
import Folio.Text.Blank
import Folio.Text.Search

/-!
# Folio.Rule.JsonPath

JSON paths: keys, positions, wildcards and recursive descent.  A path is a list
of selectors, each of which takes values from every value the selectors before
it have found.
-/

namespace Folio.Rule

open Folio.Text

/-- What a selector takes from a value. -/
inductive JsonSelector where
  | key (key : String)
  /-- A position, counted from the end when negative. -/
  | index (position : Int)
  | all
  /-- The values of a key, or all values for `*`, at any depth. -/
  | descend (key : String)
deriving DecidableEq, Repr

/-! ## Reading -/

/-- A name in a path: `*` takes all values. -/
def nameSelector (name : List Char) : JsonSelector :=
  if name = ['*'] then .all else .key (String.ofList name)

/-- What stands in brackets: `*`, a quoted key or a position. -/
def bracketSelector (path inner : List Char) : Except JsonFailure JsonSelector :=
  if inner = ['*'] then .ok .all
  else
    match quotedBy? '\'' inner with
    | some key => .ok (.key (String.ofList key))
    | none =>
      match quotedBy? '"' inner with
      | some key => .ok (.key (String.ofList key))
      | none =>
        match integerWithin? (-(Int.pow 2 63)) (Int.pow 2 63 - 1) inner with
        | some n => .ok (.index n)
        | none => .error (.unsupportedSelector (String.ofList inner) (String.ofList path))

/-- A character that cannot stand in a name. -/
def endsName (c : Char) : Bool := c == '.' || c == '['

/-- The selectors of a text that follows the root mark or other selectors. -/
def readSelectors (path s : List Char) : Except JsonFailure (List JsonSelector) :=
  match s with
  | [] => .ok []
  | '.' :: '.' :: after =>
    let key := after.takeWhile fun c => !endsName c
    if key.isEmpty then .error (.missingKey (String.ofList path))
    else
      match readSelectors path (after.dropWhile fun c => !endsName c) with
      | .error e => .error e
      | .ok rest => .ok (.descend (String.ofList key) :: rest)
  | '.' :: after =>
    let key := after.takeWhile fun c => !endsName c
    if key.isEmpty then .error (.emptyKey (String.ofList path))
    else
      match readSelectors path (after.dropWhile fun c => !endsName c) with
      | .error e => .error e
      | .ok rest => .ok (nameSelector key :: rest)
  | '[' :: after =>
    let inner := after.takeWhile (· != ']')
    match _h : after.dropWhile (· != ']') with
    | [] => .error (.unclosedBracket (String.ofList path))
    | _ :: afterwards =>
      match bracketSelector path (trim inner) with
      | .error e => .error e
      | .ok selector =>
        match readSelectors path afterwards with
        | .error e => .error e
        | .ok rest => .ok (selector :: rest)
  | s => .error (.unexpected (String.ofList s) (String.ofList path))
termination_by s.length
decreasing_by
  · have := (List.dropWhile_sublist (l := after) (fun c => !endsName c)).length_le
    simp only [List.length_cons]
    omega
  · have := (List.dropWhile_sublist (l := after) (fun c => !endsName c)).length_le
    simp only [List.length_cons]
    omega
  · have h := (List.dropWhile_sublist (l := after) (· != ']')).length_le
    rw [_h] at h
    simp only [List.length_cons] at h ⊢
    omega

/-- Read a path.  The root mark may be left out, and then a name may stand
first. -/
def readJsonPath (text : List Char) : Except JsonFailure (List JsonSelector) :=
  let path := trim text
  let rest := (stripPrefix? ['$'] path).getD path
  match rest with
  | [] => .ok []
  | c :: _ =>
    if endsName c then readSelectors path rest
    else
      match readSelectors path (rest.dropWhile fun c => !endsName c) with
      | .error e => .error e
      | .ok selectors => .ok (nameSelector (rest.takeWhile fun c => !endsName c) :: selectors)

/-! ## Evaluation -/

/-- The item at a position of a list, counted from the end when negative. -/
def itemAt? {α : Type} (items : List α) (position : Int) : Option α :=
  if 0 ≤ position then items[position.toNat]?
  else if (-position).toNat ≤ items.length then items[items.length - (-position).toNat]?
  else none

/-- The values directly inside an object that descent for a key takes. -/
def matching (key : String) (members : List (String × Json)) : List Json :=
  if key = "*" then members.map (·.2) else (members.lookup key).toList

mutual

/-- The values at any depth that descent for a key takes: those directly inside
come before those deeper. -/
def descendants (key : String) : Json → List Json
  | .object members => matching key members ++ memberDescendants key members
  | .array items => (if key = "*" then items else []) ++ itemDescendants key items
  | _ => []

/-- What descent takes from the items of an array. -/
def itemDescendants (key : String) : List Json → List Json
  | [] => []
  | v :: rest => descendants key v ++ itemDescendants key rest

/-- What descent takes from the members of an object. -/
def memberDescendants (key : String) : List (String × Json) → List Json
  | [] => []
  | (_, v) :: rest => descendants key v ++ memberDescendants key rest

end

/-- What a selector takes from a value. -/
def JsonSelector.apply (s : JsonSelector) (v : Json) : List Json :=
  match s, v with
  | .key k, .object members => (members.lookup k).toList
  | .index position, .array items => (itemAt? items position).toList
  | .all, .array items => items
  | .all, .object members => members.map (·.2)
  | .descend k, v => descendants k v
  | _, _ => []

/-- What selectors take from a value, one after the other. -/
def applySelectors (selectors : List JsonSelector) (v : Json) : List Json :=
  selectors.foldl (fun values s => values.flatMap s.apply) [v]

/-- What a path finds in a value. -/
def queryJson (v : Json) (path : String) : Except JsonFailure (List Json) :=
  (readJsonPath path.toList).map fun selectors => applySelectors selectors v

/-- The text of a value: a string without quotation marks, nothing for null,
and the written form of everything else. -/
def valueText : Json → String
  | .null => ""
  | .string s => s
  | v => v.text

/-- The JSON value that a text is. -/
def readJson (text : String) : Except JsonFailure Json :=
  match Json.parse? text with
  | some v => .ok v
  | none => .error .notJson

/-- The text is a JSON object or array, blanks in front of it allowed. -/
def looksLikeJson (text : String) : Bool :=
  let s := trimStart text.toList
  (startsWith ['\x7b'] s || startsWith ['['] s) && (Json.parse? (String.ofList s)).isSome

end Folio.Rule
