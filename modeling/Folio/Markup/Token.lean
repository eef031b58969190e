import Folio.Markup.Reference
import Folio.Text.Blank

/-!
# Folio.Markup.Token

Markup as tokens.  `nextToken` reads one token from the front of a text; how
text is read depends on the content mode, which the tree under construction
chooses: ordinary content, text with references, raw text, the text of a
script, or text to the very end.  No token is malformed: each stretch of input
has a reading.
-/

namespace Folio.Markup

open Folio.Text

/-- A start tag's parts as written; names of attributes are not yet resolved. -/
structure RawTag where
  name : String
  attributes : List (String × String)
  selfClosing : Bool
deriving DecidableEq, Repr, Inhabited

/-- What a document type declaration says. -/
structure Doctype where
  name : Option String
  publicId : Option String
  systemId : Option String
  forceQuirks : Bool
deriving DecidableEq, Repr, Inhabited

/-- A token. -/
inductive Token where
  | doctype (declaration : Doctype)
  | startTag (tag : RawTag)
  | endTag (name : String)
  | comment (content : String)
  /-- A run of characters that are all blank or all not. -/
  | characters (blank : Bool) (run : String)
  | null
  /-- Input that stands for nothing. -/
  | nothing
  /-- The end of the input. -/
  | done
deriving DecidableEq, Repr, Inhabited

/-- How content is read. -/
inductive ContentMode where
  | data
  /-- Text with references, up to the end tag of the named element. -/
  | escapable (element : String)
  /-- Text, up to the end tag of the named element. -/
  | raw (element : String)
  | script
  | plain
deriving DecidableEq, Repr, Inhabited

/-- The replacement for characters that may not stand in markup. -/
def replacement : Char := '\uFFFD'

/-- A character within a name or value. -/
def cleaned (c : Char) : Char := if c.toNat = 0 then replacement else c

/-- A character within a name. -/
def cleanedLower (c : Char) : Char := lowerAscii (cleaned c)

/-! ## Tags -/

/-- The value of an attribute as written, its references decoded; `skip`
characters belong to a reference that has been decoded. -/
def decodeValue (skip : Nat) : List Char → List Char
  | [] => []
  | c :: cs =>
    match skip with
    | skip + 1 => decodeValue skip cs
    | 0 =>
      if c = '&' then
        match reference? true cs with
        | some (text, rest) => text ++ decodeValue (cs.length - rest.length) cs
        | none => c :: decodeValue 0 cs
      else cleaned c :: decodeValue 0 cs

/-- The value of an attribute up to a quotation mark, and what follows the
mark; nothing when the text ends first. -/
def quotedValue? (quote : Char) (s : List Char) : Option (List Char × List Char) :=
  match s.dropWhile (· != quote) with
  | [] => none
  | _ :: rest => some (decodeValue 0 (s.takeWhile (· != quote)), rest)

/-- A character of a value without quotation marks. -/
def isBareChar (c : Char) : Bool := !(isAsciiBlank c || c == '>')

/-- What follows the name of an attribute: its value, empty when there is none,
and the rest; nothing when the text ends within it. -/
def attributeValue? (s : List Char) : Option (List Char × List Char) :=
  match s.dropWhile isAsciiBlank with
  | '=' :: rest =>
    match rest.dropWhile isAsciiBlank with
    | '"' :: rest => quotedValue? '"' rest
    | '\'' :: rest => quotedValue? '\'' rest
    | rest => some (decodeValue 0 (rest.takeWhile isBareChar), rest.dropWhile isBareChar)
  | rest => some ([], rest)

theorem quotedValue?_le {quote : Char} {s value rest : List Char}
    (h : quotedValue? quote s = some (value, rest)) : rest.length ≤ s.length := by
  have hle := (List.dropWhile_sublist (l := s) (· != quote)).length_le
  unfold quotedValue? at h
  split at h
  · simp at h
  · next c r hd =>
    simp only [Option.some.injEq, Prod.mk.injEq] at h
    rw [hd, List.length_cons, h.2] at hle
    omega

/-- What follows a value is no longer than the text the value was read from. -/
theorem attributeValue?_le {s value rest : List Char}
    (h : attributeValue? s = some (value, rest)) : rest.length ≤ s.length := by
  have h₁ := (List.dropWhile_sublist (l := s) isAsciiBlank).length_le
  unfold attributeValue? at h
  split at h
  · next r hr =>
    have h₂ := (List.dropWhile_sublist (l := r) isAsciiBlank).length_le
    rw [hr, List.length_cons] at h₁
    split at h
    · next r' hr' =>
      have h₃ := quotedValue?_le h
      rw [hr', List.length_cons] at h₂
      omega
    · next r' hr' =>
      have h₃ := quotedValue?_le h
      rw [hr', List.length_cons] at h₂
      omega
    · next r' _ _ =>
      have h₃ := (List.dropWhile_sublist (l := r.dropWhile isAsciiBlank) isBareChar).length_le
      simp only [Option.some.injEq, Prod.mk.injEq] at h
      rw [← h.2]
      omega
  · simp only [Option.some.injEq, Prod.mk.injEq] at h
    rw [← h.2]
    exact h₁

/-- A character that may stand in the name of an attribute after its first. -/
def isAttributeNameChar (c : Char) : Bool :=
  !(isAsciiBlank c || c == '/' || c == '>' || c == '=')

/-- Add an attribute unless one of its name is there. -/
def addAttribute (name : String) (value : List Char) (found : List (String × String)) :
    List (String × String) :=
  if found.any (·.1 == name) then found else (name, String.ofList value) :: found

/-- The attributes of a tag, whether it closes itself, and what follows the
tag; nothing when the text ends within it.  `found` holds the attributes so
far, the latest first. -/
def attributes? (found : List (String × String)) (s : List Char) :
    Option (List (String × String) × Bool × List Char) :=
  match _h : s.dropWhile isAsciiBlank with
  | [] => none
  | '>' :: rest => some (found.reverse, false, rest)
  | '/' :: '>' :: rest => some (found.reverse, true, rest)
  | '/' :: rest => attributes? found rest
  | c :: cs =>
    let name := c :: cs.takeWhile isAttributeNameChar
    match _hv : attributeValue? (cs.dropWhile isAttributeNameChar) with
    | none => none
    | some (value, rest) =>
      attributes? (addAttribute (String.ofList (name.map cleanedLower)) value found) rest
termination_by s.length
decreasing_by
  · have h₁ := (List.dropWhile_sublist (l := s) isAsciiBlank).length_le
    rw [_h, List.length_cons] at h₁
    omega
  · have h₁ := (List.dropWhile_sublist (l := s) isAsciiBlank).length_le
    have h₂ := (List.dropWhile_sublist (l := cs) isAttributeNameChar).length_le
    have h₃ := attributeValue?_le _hv
    rw [_h, List.length_cons] at h₁
    omega

/-- A character that may stand in the name of a tag. -/
def isTagNameChar (c : Char) : Bool := !(isAsciiBlank c || c == '/' || c == '>')

/-- A tag whose name begins here, and what follows it; nothing when the text
ends within it. -/
def tag? (s : List Char) : Option (RawTag × List Char) :=
  let name := s.takeWhile isTagNameChar
  let rest := s.dropWhile isTagNameChar
  (attributes? [] rest).map fun (attributes, selfClosing, rest) =>
    (⟨String.ofList (name.map cleanedLower), attributes, selfClosing⟩, rest)

/-! ## Comments and declarations -/

/-- A comment that ends at the first `>`. -/
def bogusComment (s : List Char) : Token × List Char :=
  let content := s.takeWhile (· != '>')
  (.comment (String.ofList (content.map cleaned)), (s.drop content.length).drop 1)

/-- The content of a comment up to the mark that closes it: `-->` or `--!>`,
or the end of the text, where dashes that could begin the mark are dropped. -/
def commentContent (acc : List Char) : List Char → List Char × List Char
  | [] => (acc.reverse, [])
  | ['-'] => (acc.reverse, [])
  | ['-', '-'] => (acc.reverse, [])
  | ['-', '-', '!'] => (acc.reverse, [])
  | '-' :: '-' :: '>' :: rest => (acc.reverse, rest)
  | '-' :: '-' :: '!' :: '>' :: rest => (acc.reverse, rest)
  | c :: cs => commentContent (cleaned c :: acc) cs

/-- A comment, after the mark that opens it. -/
def comment (s : List Char) : Token × List Char :=
  match s with
  | '>' :: rest => (.comment "", rest)
  | '-' :: '>' :: rest => (.comment "", rest)
  | s =>
    let (content, rest) := commentContent [] s
    (.comment (String.ofList content), rest)

/-- A quoted identifier of a declaration: its characters, whether it was cut
off, and the rest, which starts at the `>` that cut it off. -/
def identifier (quote : Char) (s : List Char) : String × Bool × List Char :=
  let content := s.takeWhile fun c => c != quote && c != '>'
  let text := String.ofList (content.map cleaned)
  match s.drop content.length with
  | [] => (text, true, [])
  | c :: rest => if c = quote then (text, false, rest) else (text, true, c :: rest)

/-- Skip to behind the `>` that ends a declaration. -/
def endOfDeclaration (s : List Char) : List Char := (s.dropWhile (· != '>')).drop 1

/-- What stands between the identifiers and the end of a declaration, when a
system identifier may come. -/
def systemPart (d : Doctype) (keyword : Bool) (s : List Char) : Doctype × List Char :=
  match s.dropWhile isAsciiBlank with
  | '>' :: rest => (if keyword then { d with forceQuirks := true } else d, rest)
  | [] => ({ d with forceQuirks := true }, [])
  | c :: rest =>
    if c = '"' ∨ c = '\'' then
      let (text, cut, rest) := identifier c rest
      let d := { d with systemId := some text, forceQuirks := d.forceQuirks || cut }
      if cut then (d, rest.drop 1)
      else
        match rest.dropWhile isAsciiBlank with
        | [] => ({ d with forceQuirks := true }, [])
        | rest => (d, endOfDeclaration rest)
    else ({ d with forceQuirks := true }, endOfDeclaration (c :: rest))

/-- What follows the keyword for a public identifier. -/
def publicPart (d : Doctype) (s : List Char) : Doctype × List Char :=
  match s.dropWhile isAsciiBlank with
  | '>' :: rest => ({ d with forceQuirks := true }, rest)
  | [] => ({ d with forceQuirks := true }, [])
  | c :: rest =>
    if c = '"' ∨ c = '\'' then
      let (text, cut, rest) := identifier c rest
      let d := { d with publicId := some text, forceQuirks := d.forceQuirks || cut }
      if cut then (d, rest.drop 1) else systemPart d false rest
    else ({ d with forceQuirks := true }, endOfDeclaration (c :: rest))

/-- The text without a word at its front, whatever its letter case. -/
def stripWord? (word : List Char) (s : List Char) : Option (List Char) :=
  if (s.take word.length).map lowerAscii = word then some (s.drop word.length) else none

/-- A document type declaration, after its keyword. -/
def doctype (s : List Char) : Doctype × List Char :=
  match s.dropWhile isAsciiBlank with
  | [] => (⟨none, none, none, true⟩, [])
  | '>' :: rest => (⟨none, none, none, true⟩, rest)
  | s =>
    let isNameChar := fun c => !(isAsciiBlank c || c == '>')
    let name := String.ofList ((s.takeWhile isNameChar).map cleanedLower)
    let d : Doctype := ⟨some name, none, none, false⟩
    match (s.dropWhile isNameChar).dropWhile isAsciiBlank with
    | [] => ({ d with forceQuirks := true }, [])
    | '>' :: rest => (d, rest)
    | rest =>
      match stripWord? "public".toList rest with
      | some rest => publicPart d rest
      | none =>
        match stripWord? "system".toList rest with
        | some rest => systemPart d true rest
        | none => ({ d with forceQuirks := true }, endOfDeclaration rest)

/-! ## Content -/

/-- The token of a run of characters. -/
def runToken (run : List Char) : Token :=
  .characters ((run.head?.map isAsciiBlank).getD false) (String.ofList run)

/-- A run at the front of the text: characters that are all blank or all not,
up to one of class `stops`. -/
def run (stops : Char → Bool) (s : List Char) : List Char × List Char :=
  let blank := (s.head?.map isAsciiBlank).getD false
  let chars := s.takeWhile fun c => !stops c && isAsciiBlank c == blank
  (chars, s.drop chars.length)

/-- A single character as a token. -/
def single (c : Char) (rest : List Char) : Token × List Char := (runToken [c], rest)

/-- Text that a reference stands for, as a token. -/
def referenced (text : List Char) (rest : List Char) : Token × List Char := (runToken text, rest)

/-- The content of a character data section, up to its closing mark. -/
def sectionContent (acc : List Char) : List Char → List Char × List Char
  | [] => (acc.reverse, [])
  | ']' :: ']' :: '>' :: rest => (acc.reverse, rest)
  | c :: cs => sectionContent (c :: acc) cs

/-- A declaration, a comment or a character data section, after `<!`.  The
content of a section goes back to the front of the text, its marks removed and
its special characters guarded, by way of the second component. -/
def declaration (sections : Bool) (s : List Char) : (Token × List Char) ⊕ (List Char × List Char) :=
  match s with
  | '-' :: '-' :: rest => .inl (comment rest)
  | s =>
    match stripWord? "doctype".toList s with
    | some rest =>
      let (d, rest) := doctype rest
      .inl (.doctype d, rest)
    | none =>
      match sections, stripPrefix? "[CDATA[".toList s with
      | true, some rest => .inr (sectionContent [] rest)
      | _, _ => .inl (bogusComment s)

/-- A text that is the end tag of an element: what follows its name, which is a
blank, a slash or the end of the tag. -/
def matchingEndTag? (element : String) (s : List Char) : Option (Token × List Char) :=
  match s with
  | '<' :: '/' :: rest =>
    let name := rest.takeWhile isAsciiLetter
    if String.ofList (name.map lowerAscii) = element then
      match rest.drop name.length with
      | c :: _ =>
        if isTagNameChar c then none
        else (tag? rest).map fun (tag, rest) => (.endTag tag.name, rest)
      | [] => none
    else none
  | _ => none

/-- The text of an end tag that the input breaks off, which yields nothing. -/
def brokenEndTag (element : String) (s : List Char) : Bool :=
  match s with
  | '<' :: '/' :: rest =>
    let name := rest.takeWhile isAsciiLetter
    String.ofList (name.map lowerAscii) == element &&
      match rest.drop name.length with
      | c :: _ => !isTagNameChar c
      | [] => false
  | _ => false

/-- The number of characters of a script's text that stand before its end tag,
with the rule that `<!--` hides a nested `<script` up to its own end tag. -/
def scriptLength (hidden : Nat) (count : Nat) : List Char → Nat
  | [] => count
  | c :: cs =>
    let s := c :: cs
    let startsTag (mark : List Char) : Bool :=
      match stripWord? mark s with
      | some (d :: _) => isAsciiBlank d || d == '/' || d == '>'
      | _ => false
    match hidden with
    | 0 =>
      if startsTag "</script".toList then count
      else if (stripPrefix? "<!--".toList s).isSome then
        -- the opening mark may close at once, as in `<!-->`
        scriptLength 1 (count + 1) cs
      else scriptLength 0 (count + 1) cs
    | 1 =>
      if startsTag "</script".toList then count
      else if startsTag "<script".toList then scriptLength 2 (count + 1) cs
      else if (stripPrefix? "-->".toList s).isSome then scriptLength 0 (count + 1) cs
      else scriptLength 1 (count + 1) cs
    | hidden =>
      if startsTag "</script".toList then scriptLength 1 (count + 1) cs
      else if (stripPrefix? "-->".toList s).isSome then scriptLength 0 (count + 1) cs
      else scriptLength hidden (count + 1) cs

/-- Text that is read as a whole, as a token. -/
def wholeText (chars : List Char) : Token := .characters false (String.ofList (chars.map cleaned))

/-- Text up to the end tag of its element, with references where `escapable`
says so. -/
def elementText (escapable : Bool) (element : String) (s : List Char) : Token × List Char :=
  match matchingEndTag? element s with
  | some result => result
  | none =>
    if brokenEndTag element s then (.done, [])
    else
      match s with
      | '<' :: rest => single '<' rest
      | '&' :: rest =>
        if escapable then
          match reference? false rest with
          | some (text, rest) => referenced text rest
          | none => single '&' rest
        else
          let chars := rest.takeWhile (· != '<')
          (wholeText ('&' :: chars), rest.drop chars.length)
      | s =>
        let chars := s.takeWhile fun c => c != '<' && !(escapable && c == '&')
        (wholeText chars, s.drop chars.length)

/-- The text of a script and its end tag. -/
def scriptText (s : List Char) : Token × List Char :=
  let n := scriptLength 0 0 s
  if n = 0 then
    match matchingEndTag? "script" s with
    | some result => result
    | none => (.done, [])
  else (wholeText (s.take n), s.drop n)

/-- The next token of ordinary content.  With `sections`, character data
sections are read as such. -/
def contentToken (sections : Bool) (s : List Char) : Token × List Char :=
  match s with
  | [] => (.done, [])
  | '<' :: rest =>
    match rest with
    | '!' :: rest =>
      match declaration sections rest with
      | .inl result => result
      | .inr (content, rest) =>
        (.characters (content.all isAsciiBlank) (String.ofList (content.map cleaned)), rest)
    | '/' :: rest =>
      match rest with
      | [] => (.characters false "</", [])
      | '>' :: rest => (.nothing, rest)
      | c :: _ =>
        if isAsciiLetter c then
          match tag? rest with
          | some (tag, rest) => (.endTag tag.name, rest)
          | none => (.done, [])
        else bogusComment rest
    | '?' :: _ => bogusComment rest
    | c :: _ =>
      if isAsciiLetter c then
        match tag? rest with
        | some (tag, rest) => (.startTag tag, rest)
        | none => (.done, [])
      else single '<' rest
    | [] => single '<' []
  | '&' :: rest =>
    match reference? false rest with
    | some (text, rest) => referenced text rest
    | none => single '&' rest
  | c :: cs =>
    if c.toNat = 0 then (.null, cs)
    else
      let (chars, rest) := run (fun c => c == '<' || c == '&' || c.toNat == 0) (c :: cs)
      (runToken chars, rest)

/-- The next token. -/
def nextToken (mode : ContentMode) (sections : Bool) (s : List Char) : Token × List Char :=
  if s.isEmpty then (.done, [])
  else
    match mode with
    | .data => contentToken sections s
    | .escapable element => elementText true element s
    | .raw element => elementText false element s
    | .script => scriptText s
    | .plain => (wholeText s, [])

/-- The input without the byte order mark it may begin with, and with one line
feed for each way to end a line. -/
def normalizedInput (s : List Char) : List Char :=
  let s := match s with
    | '\uFEFF' :: rest => rest
    | s => s
  lineFeeds [] s
where
  /-- One line feed for each way to end a line. -/
  lineFeeds (acc : List Char) : List Char → List Char
    | [] => acc.reverse
    | '\r' :: '\n' :: rest => lineFeeds ('\n' :: acc) rest
    | '\r' :: rest => lineFeeds ('\n' :: acc) rest
    | c :: rest => lineFeeds (c :: acc) rest

end Folio.Markup
