import FragmentFeed.Url.Host

/-!
# URLs

A URL as its components and the text they are written as. The components hold text that is
percent-encoded already, so that writing only puts delimiters between them.
-/

namespace FragmentFeed

open Text

/-- What follows `//`: user information, host and port. -/
structure Authority where
  username : List Char
  /-- Never empty. -/
  password : Option (List Char)
  /-- The host, unless it is empty. -/
  host : Option Host
  /-- The port, unless it is the default of the scheme. -/
  port : Option Nat
  deriving DecidableEq, Repr

/-- The path of a URL. -/
inductive Path where
  /-- Each segment stands behind a slash; a path may have none. -/
  | segments (list : List (List Char))
  /-- A path without a slash in front, which is kept as it is and takes no relative reference. -/
  | verbatim (text : List Char)
  deriving DecidableEq, Repr

/-- An absolute URL. -/
structure Url where
  scheme : List Char
  authority : Option Authority
  path : Path
  query : Option (List Char)
  fragment : Option (List Char)
  deriving DecidableEq, Repr

/-- The ways in which schemes differ. -/
inductive SchemeKind where
  | file
  /-- Those of `http`, `https`, `ws`, `wss` and `ftp`, which have a host and treat `\` as `/`. -/
  | special
  | other
  deriving DecidableEq, Repr

/-- The kind of a scheme. -/
def SchemeKind.of (scheme : List Char) : SchemeKind :=
  if scheme = "file".toList then .file
  else if scheme = "http".toList ∨ scheme = "https".toList ∨ scheme = "ws".toList
      ∨ scheme = "wss".toList ∨ scheme = "ftp".toList then .special
  else .other

/-- Whether `\` stands for `/`. -/
def SchemeKind.isSpecial (k : SchemeKind) : Bool := k ≠ .other

/-- The port that a scheme uses unless another is given. -/
def defaultPort (scheme : List Char) : Option Nat :=
  if scheme = "http".toList ∨ scheme = "ws".toList then some 80
  else if scheme = "https".toList ∨ scheme = "wss".toList then some 443
  else if scheme = "ftp".toList then some 21
  else none

namespace Path

/-- The written form. -/
def toText : Path → List Char
  | .segments l => l.flatMap ('/' :: ·)
  | .verbatim t => t

/-- Whether the written form would be taken for an authority if it followed the scheme. -/
def looksLikeAuthority : Path → Bool
  | .segments ([] :: _ :: _) => true
  | _ => false

end Path

namespace Authority

/-- User name and password as they stand before the host. -/
def userInfo (a : Authority) : List Char :=
  match a.password with
  | none => if a.username.isEmpty then [] else a.username ++ ['@']
  | some p => a.username ++ ':' :: p ++ ['@']

/-- The host as it is written. -/
def hostText (a : Authority) : List Char := (a.host.map Host.toText).getD []

/-- The port as it is written. -/
def portText (a : Authority) : List Char :=
  match a.port with
  | none => []
  | some p => ':' :: Digit.decimal p

/-- The written form, without the slashes in front. -/
def toText (a : Authority) : List Char := a.userInfo ++ a.hostText ++ a.portText

end Authority

namespace Url

/-- The kind of the scheme. -/
def kind (u : Url) : SchemeKind := .of u.scheme

/-- What stands between scheme and path: the authority, or `/.` where the path could be taken for
one. -/
def authorityText (u : Url) : List Char :=
  match u.authority with
  | some a => '/' :: '/' :: a.toText
  | none => if u.path.looksLikeAuthority then ['/', '.'] else []

/-- The query with its mark. -/
def queryText (u : Url) : List Char :=
  match u.query with
  | none => []
  | some q => '?' :: q

/-- The fragment with its mark. -/
def fragmentText (u : Url) : List Char :=
  match u.fragment with
  | none => []
  | some f => '#' :: f

/-- The written form. -/
def toText (u : Url) : List Char :=
  u.scheme ++ ':' :: u.authorityText ++ u.path.toText ++ u.queryText ++ u.fragmentText

/-- The user name; empty where there is none. -/
def username (u : Url) : List Char := (u.authority.map (·.username)).getD []

/-- The password. -/
def password (u : Url) : Option (List Char) := u.authority.bind (·.password)

/-- The host. -/
def host (u : Url) : Option Host := u.authority.bind (·.host)

/-- The port, where it is not the default of the scheme. -/
def port (u : Url) : Option Nat := u.authority.bind (·.port)

/-- The URL without its fragment. -/
def withoutFragment (u : Url) : Url := { u with fragment := none }

/-- The URL without user name and password. -/
def withoutUserInfo (u : Url) : Url :=
  { u with authority := u.authority.map fun a => { a with username := [], password := none } }

end Url

end FragmentFeed
