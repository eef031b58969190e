import Folio.Url.Basic
import Folio.Text.Blank

/-!
# Folio.Url.Parser

Reading URLs, absolute or relative to a base.  Spaces and control characters
around the text and line breaks and tabs within it do not count.
-/

namespace Folio.Url

open Folio.Text

/-! ## Paths -/

/-- A letter and a colon or a bar, as for a drive. -/
def isDrive : List Char → Bool
  | [c, d] => isAsciiLetter c && (d == ':' || d == '|')
  | _ => false

/-- A letter and a colon. -/
def isNormalDrive : List Char → Bool
  | [c, ':'] => isAsciiLetter c
  | _ => false

/-- The text begins with a drive, which a slash, a query, a fragment or nothing
follows. -/
def startsWithDrive : List Char → Bool
  | [c, d] => isDrive [c, d]
  | c :: d :: e :: _ =>
    isDrive [c, d] && (e == '/' || e == '\\' || e == '?' || e == '#')
  | _ => false

/-- A segment that stands for the directory itself. -/
def isSingleDot (segment : List Char) : Bool :=
  let s := segment.map lowerAscii
  s == ['.'] || s == "%2e".toList

/-- A segment that stands for the directory above. -/
def isDoubleDot (segment : List Char) : Bool :=
  let s := segment.map lowerAscii
  s == ['.', '.'] || s == "%2e%2e".toList || s == "%2e.".toList || s == ".%2e".toList

/-- The path up to and including its last slash. -/
def upToSlash (path : List Char) : List Char := (path.reverse.dropWhile (· != '/')).reverse

/-- The segment after the last slash. -/
def lastSegment (path : List Char) : List Char := (path.reverse.takeWhile (· != '/')).reverse

/-- The path without its last segment; a drive of a file path stays. -/
def popSegment (kind : SchemeKind) (path : List Char) : List Char :=
  if kind == .file && isNormalDrive (lastSegment path) then path else upToSlash path

/-- The path ends with a slash that does not begin it and does not follow a
drive. -/
def hasRemovableSlash (path : List Char) : Bool :=
  match path.reverse with
  | '/' :: before =>
    let segment := (before.takeWhile (· != '/')).reverse
    before.contains '/' && !startsWithDrive (segment ++ ['/'])
  | _ => false

/-- The path after a segment for the directory above. -/
def climb (kind : SchemeKind) (path : List Char) (slash : Bool) : List Char :=
  let path := popSegment kind (if hasRemovableSlash path then path.dropLast else path)
  if slash && !endsWith ['/'] path then path ++ ['/'] else path

/-- The path after one more segment, which a slash ends when `slash` is set. -/
def addSegment (kind : SchemeKind) (path segment : List Char) (slash : Bool) : List Char :=
  if isDoubleDot segment then climb kind path slash
  else if isSingleDot segment then if endsWith ['/'] path then path else path ++ ['/']
  else
    let path := if kind == .file && isNormalDrive (path.drop 1) && !segment.isEmpty then
      path ++ ['/'] else path
    let segment := match segment with
      | [c, _] => if kind == .file && path.length == 1 && isDrive segment then [c, ':'] else segment
      | segment => segment
    path ++ segment ++ (if slash then ['/'] else [])

/-- The path after the segments of a text; `segment` holds the characters of
the present one, the latest first. -/
def addPath (kind : SchemeKind) (path segment : List Char) : List Char → List Char
  | [] => addSegment kind path segment.reverse false
  | c :: rest =>
    if c = '/' ∨ (c = '\\' ∧ kind.isSpecial) then
      addPath kind (addSegment kind path segment.reverse true) [] rest
    else addPath kind path ((encodeText keptInPath [c]).reverse ++ segment) rest

/-- The path of a file has one slash in front. -/
def settlePath (kind : SchemeKind) (path : List Char) : List Char :=
  if kind == .file then '/' :: path.dropWhile (· == '/') else path

/-- A text up to a query or fragment, and the rest. -/
def splitPath (s : List Char) : List Char × List Char :=
  let isPath := fun c => !(c == '?' || c == '#')
  (s.takeWhile isPath, s.dropWhile isPath)

/-- The query and the fragment of a text that begins with one of them or is
empty. -/
def queryAndFragment (kind : SchemeKind) (s : List Char) :
    Option (List Char) × Option (List Char) :=
  let fragment (s : List Char) : Option (List Char) :=
    match s with
    | '#' :: rest => some (encodeText keptInFragment rest)
    | _ => none
  match s with
  | '?' :: rest =>
    let query := rest.takeWhile (· != '#')
    (some (encodeText (keptInQuery kind.isSpecial) query), fragment (rest.drop query.length))
  | s => (none, fragment s)

/-- A URL whose path continues a given one. -/
def continuePath (scheme : List Char) (authority : Option Authority) (kind : SchemeKind)
    (path : List Char) (s : List Char) : Url :=
  let (segments, rest) := splitPath s
  let (query, fragment) := queryAndFragment kind rest
  ⟨scheme, authority, settlePath kind (addPath kind path [] segments), query, fragment⟩

/-! ## Authorities -/

/-- The text of an authority, and the rest. -/
def splitAuthority (kind : SchemeKind) (s : List Char) : List Char × List Char :=
  let isInside := fun c => !(c == '/' || c == '?' || c == '#' || (c == '\\' && kind.isSpecial))
  (s.takeWhile isInside, s.dropWhile isInside)

/-- User name and password, and the rest of the authority: what follows the
last at sign. -/
def credentials (authority : List Char) : List Char × List Char × List Char :=
  match authority.reverse.dropWhile (· != '@') with
  | [] => ([], [], authority)
  | _ :: before =>
    let userinfo := before.reverse
    let rest := authority.drop (userinfo.length + 1)
    let username := userinfo.takeWhile (· != ':')
    let password := (userinfo.drop username.length).drop 1
    (encodeText keptInCredentials username, encodeText keptInCredentials password, rest)

/-- The text of a host, and the rest: a colon outside brackets ends it. -/
def splitHost (inBrackets : Bool) : List Char → List Char × List Char
  | [] => ([], [])
  | c :: rest =>
    if c = ':' ∧ !inBrackets then ([], c :: rest)
    else
      let (host, after) :=
        splitHost (if c = '[' then true else if c = ']' then false else inBrackets) rest
      (c :: host, after)

/-- The port that digits give; none when there are no digits or it is the
scheme's own. -/
def port (scheme digits : List Char) : Except Failure (Option Nat) :=
  if !digits.all isAsciiDigit then .error .invalidPort
  else
    let n := decimalValue digits
    if n > 65535 then .error .invalidPort
    else if digits.isEmpty || defaultPort? scheme == some n then .ok none
    else .ok (some n)

/-- An authority. -/
def readAuthority (kind : SchemeKind) (scheme text after : List Char) :
    Except Failure Authority := do
  let (username, password, rest) := credentials text
  if text.head? = some '@' ∧ rest.isEmpty ∧ !after.isEmpty ∧
      (text.filter (· == '@')).length = 1 then
    throw .emptyHost
  let (hostText, portText) := splitHost false rest
  if kind == .web && hostText.isEmpty then throw .emptyHost
  let host ← if kind == .other then opaqueHost hostText else host hostText
  if host.isEmpty && !portText.isEmpty then throw .emptyHost
  let port ← port scheme (portText.drop 1)
  if host.isEmpty && !(username.isEmpty && password.isEmpty) then throw .emptyHost
  return ⟨username, password, host, port⟩

/-- What follows the two slashes before an authority. -/
def afterSlashes (kind : SchemeKind) (scheme s : List Char) : Except Failure Url := do
  let (text, after) := splitAuthority kind s
  let a ← readAuthority kind scheme text after
  match kind, after with
  | .other, [] => return ⟨scheme, some a, [], none, none⟩
  | .other, c :: _ =>
    if c = '?' ∨ c = '#' then
      let (query, fragment) := queryAndFragment kind after
      return ⟨scheme, some a, [], query, fragment⟩
    else return continuePath scheme (some a) kind [] after
  | _, c :: rest =>
    if c = '/' ∨ c = '\\' then return continuePath scheme (some a) kind ['/'] rest
    else return continuePath scheme (some a) kind ['/'] (c :: rest)
  | _, [] => return continuePath scheme (some a) kind ['/'] []

/-! ## Files -/

/-- An authority that is only a host. -/
def onlyHost (host : List Char) : Authority := ⟨[], [], host, none⟩

/-- The URL of a file, after the scheme. -/
def fileUrl (base : Option Url) (s : List Char) : Except Failure Url := do
  let scheme := "file".toList
  let base := base.filter (·.scheme == scheme)
  let isSlash := fun c : Char => c == '/' || c == '\\'
  match s with
  | a :: b :: rest =>
    if isSlash a && isSlash b then
      let isHost := fun c => !(c == '/' || c == '\\' || c == '?' || c == '#')
      let hostText := rest.takeWhile isHost
      if isDrive hostText then
        return continuePath scheme (some (onlyHost [])) .file ['/'] rest
      let after := rest.drop hostText.length
      let host ← if hostText.isEmpty then .ok [] else host hostText
      let host := if host = "localhost".toList then [] else host
      let after := match after with
        | c :: more => if isSlash c then more else after
        | [] => []
      return continuePath scheme (some (onlyHost host)) .file ['/'] after
  | _ => pure ()
  match s, base with
  | c :: rest, base =>
    if isSlash c then
      let host := if startsWithDrive rest then [] else
        ((base.bind (·.authority)).map (·.host)).getD []
      return continuePath scheme (some (onlyHost host)) .file ['/'] rest
    match base with
    | none => return continuePath scheme (some (onlyHost [])) .file ['/'] s
    | some base =>
      if c = '?' ∨ c = '#' then
        let (query, fragment) := queryAndFragment .file s
        return { base with query := if c = '#' then base.query else query, fragment }
      else if startsWithDrive s then
        return continuePath scheme (some (onlyHost [])) .file ['/'] s
      else return continuePath scheme base.authority .file (popSegment .file base.path) s
  | [], some base => return { base with fragment := none }
  | [], none => return ⟨scheme, some (onlyHost []), ['/'], none, none⟩

/-! ## URLs -/

/-- A URL relative to one with a hierarchy. -/
def relativeTo (base : Url) (s : List Char) : Except Failure Url := do
  let kind := schemeKind base.scheme
  match s with
  | [] => return { base with fragment := none }
  | c :: rest =>
    if c = '?' then
      let (query, fragment) := queryAndFragment kind s
      return { base with query, fragment }
    else if c = '#' then
      return { base with fragment := (queryAndFragment kind s).2 }
    else if c = '/' ∨ c = '\\' then
      let slashes := s.takeWhile fun c => c == '/' || c == '\\'
      if 2 ≤ slashes.length then
        afterSlashes kind base.scheme ((stripPrefix? ['/', '/'] s).getD (s.drop slashes.length))
      else return continuePath base.scheme base.authority kind ['/'] rest
    else
      let path := popSegment kind base.path
      let path := if path.isEmpty then ['/'] else path
      return continuePath base.scheme base.authority kind path s

/-- The scheme that a text begins with, and what follows its colon. -/
def splitScheme? (s : List Char) : Option (List Char × List Char) :=
  match s with
  | [] => none
  | c :: _ =>
    if !isAsciiLetter c then none
    else
      let scheme := s.takeWhile fun c => isAsciiAlnum c || c == '+' || c == '-' || c == '.'
      match s.drop scheme.length with
      | ':' :: rest => some (scheme.map lowerAscii, rest)
      | _ => none

/-- A URL after its scheme. -/
def afterScheme (base : Option Url) (scheme s : List Char) : Except Failure Url :=
  match schemeKind scheme with
  | .file => fileUrl base s
  | .web =>
    let slashes := s.takeWhile fun c => c == '/' || c == '\\'
    match base.filter (·.scheme == scheme) with
    | some base =>
      if slashes.length < 2 then relativeTo base s
      else afterSlashes .web scheme (s.drop slashes.length)
    | none => afterSlashes .web scheme (s.drop slashes.length)
  | .other =>
    match s with
    | '/' :: '/' :: rest => afterSlashes .other scheme rest
    | '/' :: rest => .ok (continuePath scheme none .other ['/'] rest)
    | s =>
      let (path, rest) := splitPath s
      let (query, fragment) := queryAndFragment .other rest
      .ok ⟨scheme, none, encodeText keptOpaque path, query, fragment⟩

/-- The text without spaces and control characters around it and without line
breaks and tabs within. -/
def cleaned (s : List Char) : List Char :=
  let isMargin := fun c : Char => c.toNat ≤ 0x20
  (dropEndWhile isMargin (s.dropWhile isMargin)).filter fun c =>
    !(c == '\t' || c == '\n' || c == '\r')

/-- Read a URL, which may be relative to a base. -/
def read (base : Option Url) (s : List Char) : Except Failure Url :=
  let s := cleaned s
  match splitScheme? s with
  | some (scheme, rest) => afterScheme base scheme rest
  | none =>
    match base with
    | none => .error .relativeWithoutBase
    | some base =>
      if startsWith ['#'] s then .ok { base with fragment := (queryAndFragment .other s).2 }
      else if base.isOpaque then .error .relativeToOpaque
      else if schemeKind base.scheme == .file then fileUrl (some base) s
      else relativeTo base s

/-- Read an absolute URL. -/
def parse (s : String) : Except Failure Url := read none s.toList

/-- Read a URL relative to a base. -/
def join (base : Url) (s : String) : Except Failure Url := read (some base) s.toList

end Folio.Url
