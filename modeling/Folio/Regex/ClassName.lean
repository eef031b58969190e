import Folio.Regex.CharSet
import Folio.Unicode.Word

/-!
# Folio.Regex.ClassName

Sets of characters that a regular expression calls by name: digits, blanks and
words, the bracketed names of ASCII classes, and the general categories,
scripts and properties of Unicode.
-/

namespace Folio.Regex

open Folio.Text Folio.Unicode

namespace CharSet

/-- Decimal digits. -/
def digits : CharSet := ofRanges (categoryRanges (· == "Nd"))

/-- Blank characters. -/
def blanks : CharSet := ofRanges (propertyRanges "White_Space")

/-- Characters of words. -/
def words : CharSet := ofRanges wordRanges

/-- Decimal digits of ASCII. -/
def asciiDigits : CharSet := ⟨[(48, 57)]⟩

/-- Blank characters of ASCII. -/
def asciiBlanks : CharSet := ⟨[(9, 13), (32, 32)]⟩

/-- Characters of words in ASCII. -/
def asciiWords : CharSet := ⟨[(48, 57), (65, 90), (95, 95), (97, 122)]⟩

/-- The ASCII class with a bracketed name. -/
def asciiNamed? (name : List Char) : Option CharSet :=
  match String.ofList name with
  | "alnum" => some ⟨[(48, 57), (65, 90), (97, 122)]⟩
  | "alpha" => some ⟨[(65, 90), (97, 122)]⟩
  | "ascii" => some ⟨[(0, 127)]⟩
  | "blank" => some ⟨[(9, 9), (32, 32)]⟩
  | "cntrl" => some ⟨[(0, 31), (127, 127)]⟩
  | "digit" => some ⟨[(48, 57)]⟩
  | "graph" => some ⟨[(33, 126)]⟩
  | "lower" => some ⟨[(97, 122)]⟩
  | "print" => some ⟨[(32, 126)]⟩
  | "punct" => some ⟨[(33, 47), (58, 64), (91, 96), (123, 126)]⟩
  | "space" => some ⟨[(9, 13), (32, 32)]⟩
  | "upper" => some ⟨[(65, 90)]⟩
  | "word" => some asciiWords
  | "xdigit" => some ⟨[(48, 57), (65, 70), (97, 102)]⟩
  | _ => none

/-- General categories by their loose names: letters that the two-letter
categories of the class begin with, or the categories themselves. -/
def categoryNames : List (List String × List String) :=
  [(["l", "letter"], ["L"]), (["lc", "casedletter"], ["Lu", "Ll", "Lt"]),
    (["lu", "uppercaseletter"], ["Lu"]), (["ll", "lowercaseletter"], ["Ll"]),
    (["lt", "titlecaseletter"], ["Lt"]), (["lm", "modifierletter"], ["Lm"]),
    (["lo", "otherletter"], ["Lo"]), (["m", "mark", "combiningmark"], ["M"]),
    (["mn", "nonspacingmark"], ["Mn"]), (["mc", "spacingmark"], ["Mc"]),
    (["me", "enclosingmark"], ["Me"]), (["n", "number"], ["N"]),
    (["nd", "decimalnumber", "digit"], ["Nd"]), (["nl", "letternumber"], ["Nl"]),
    (["no", "othernumber"], ["No"]), (["p", "punctuation", "punct"], ["P"]),
    (["pc", "connectorpunctuation"], ["Pc"]), (["pd", "dashpunctuation"], ["Pd"]),
    (["ps", "openpunctuation"], ["Ps"]), (["pe", "closepunctuation"], ["Pe"]),
    (["pi", "initialpunctuation"], ["Pi"]), (["pf", "finalpunctuation"], ["Pf"]),
    (["po", "otherpunctuation"], ["Po"]), (["s", "symbol"], ["S"]),
    (["sm", "mathsymbol"], ["Sm"]), (["sc", "currencysymbol"], ["Sc"]),
    (["sk", "modifiersymbol"], ["Sk"]), (["so", "othersymbol"], ["So"]),
    (["z", "separator"], ["Z"]), (["zs", "spaceseparator"], ["Zs"]),
    (["zl", "lineseparator"], ["Zl"]), (["zp", "paragraphseparator"], ["Zp"]),
    (["c", "other"], ["C"]), (["cc", "control", "cntrl"], ["Cc"]), (["cf", "format"], ["Cf"]),
    (["cn", "unassigned"], ["Cn"]), (["co", "privateuse"], ["Co"]), (["cs", "surrogate"], ["Cs"])]

/-- The set of a general category, of all characters, of those assigned or of
ASCII, by its loose name. -/
def categoryNamed? (name : List Char) : Option CharSet :=
  match String.ofList name with
  | "any" => some all
  | "assigned" => some (ofRanges (categoryRanges (· != "Cn")))
  | "ascii" => some ⟨[(0, 127)]⟩
  | plain =>
    (categoryNames.find? (·.1.contains plain)).map fun (_, starts) =>
      ofRanges (categoryRanges fun category => starts.any fun start => category.startsWith start)

/-- The set of a script by its loose name. -/
def scriptNamed? (name : List Char) : Option CharSet := (classNamed? scripts name).map ofRanges

/-- The set of a property, a general category or a script by its name. -/
def named? (name : List Char) : Option CharSet :=
  let loose := looseName name
  let property :=
    if [['c', 'f'], ['s', 'c'], ['l', 'c']].contains loose then none
    else (classNamed? properties loose).map ofRanges
  property <|> categoryNamed? loose <|> scriptNamed? loose

/-- The set of the characters for which a property has a value. -/
def valued? (property value : List Char) : Option CharSet :=
  match String.ofList (looseName property) with
  | "generalcategory" | "gc" => categoryNamed? (looseName value)
  | "script" | "sc" | "scriptextensions" | "scx" => scriptNamed? (looseName value)
  | _ => none

/-- The set that the inside of `\p` names: a name, or a property and its value
parted by `!=`, `:` or `=`. -/
def queried? (query : List Char) : Option CharSet :=
  match cut? ['!', '='] query with
  | some (property, value) => (valued? property value).map complement
  | none =>
    match cut? [':'] query with
    | some (property, value) => valued? property value
    | none =>
      match cut? ['='] query with
      | some (property, value) => valued? property value
      | none => named? query

end CharSet

end Folio.Regex
