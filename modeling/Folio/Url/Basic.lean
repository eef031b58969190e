import Folio.Url.Host

/-!
# Folio.Url.Basic

URLs in their parts, and their written form.  Every part is kept as it is
written; a path that does not begin with a slash belongs to a URL that can have
no relative ones.
-/

namespace Folio

open Folio.Text

/-- The part of a URL that names whom to ask. -/
structure Url.Authority where
  username : List Char
  password : List Char
  host : List Char
  port : Option Nat
deriving DecidableEq, Repr

/-- A URL. -/
structure Url where
  scheme : List Char
  authority : Option Url.Authority
  path : List Char
  query : Option (List Char)
  fragment : Option (List Char)
deriving DecidableEq, Repr

namespace Url

/-- The port that a scheme has unless another is given. -/
def defaultPort? (scheme : List Char) : Option Nat :=
  if scheme = "http".toList ∨ scheme = "ws".toList then some 80
  else if scheme = "https".toList ∨ scheme = "wss".toList then some 443
  else if scheme = "ftp".toList then some 21
  else none

/-- How the URLs of a scheme are read. -/
inductive SchemeKind where
  | file
  /-- Web addresses: there is always a host, and a backslash is a slash. -/
  | web
  | other
deriving DecidableEq, Repr

/-- How the URLs of a scheme are read. -/
def schemeKind (scheme : List Char) : SchemeKind :=
  if scheme = "file".toList then .file
  else if (defaultPort? scheme).isSome then .web
  else .other

/-- A backslash counts as a slash. -/
def SchemeKind.isSpecial : SchemeKind → Bool
  | .other => false
  | _ => true

/-- The URL has no hierarchy, so that nothing is relative to it. -/
def isOpaque (u : Url) : Bool := u.authority.isNone && !startsWith ['/'] u.path

/-- The credentials before a host. -/
def Authority.credentials (a : Authority) : List Char :=
  if a.username.isEmpty && a.password.isEmpty then []
  else
    a.username ++ (if a.password.isEmpty then [] else ':' :: a.password) ++ ['@']

/-- The authority as it is written. -/
def Authority.text (a : Authority) : List Char :=
  a.credentials ++ a.host ++
    match a.port with
    | some port => ':' :: Nat.toDigits 10 port
    | none => []

/-- The characters between the scheme and the path.  A path that begins with
two slashes must not be taken for an authority. -/
def hierarchy (u : Url) : List Char :=
  match u.authority with
  | some a => '/' :: '/' :: a.text
  | none => if startsWith ['/', '/'] u.path then ['/', '.'] else []

/-- The written form of a URL. -/
def chars (u : Url) : List Char :=
  u.scheme ++ ':' :: (u.hierarchy ++ u.path ++
    (match u.query with
      | some q => '?' :: q
      | none => []) ++
    match u.fragment with
    | some f => '#' :: f
    | none => [])

/-- The written form of a URL. -/
def text (u : Url) : String := String.ofList u.chars

end Url

end Folio
