import FragmentFeed.Url.Basic

/-!
# Request targets

Which URLs a request can be made for, and how they stand in it. What a request may hold is narrower
than what a URL may: the authority has no quotes or braces, and the whole has a greatest length.
-/

namespace FragmentFeed.Http

open Text

/-- Whether a character may stand in an authority as itself. -/
def isAuthorityChar (c : Char) : Bool :=
  c.isAlphanum || ['!', '$', '&', '\'', '(', ')', '*', '+', ',', '-', '.', ':', ';', '=', '@', '[',
    ']', '_', '~'].contains c

/-- What has been seen of an authority since its last `@`. -/
structure Seen where
  colons : Nat
  percent : Bool
  opened : Bool
  closed : Bool
  /-- Whether the last character was `@`. -/
  bare : Bool
  deriving DecidableEq, Repr

/-- Goes through an authority. A colon may stand once in front of a port, and any number of times
within the brackets of an address; a percent sign only in front of an `@`. -/
def authorityFrom (s : Seen) : List Char → Bool
  | [] => s.opened == s.closed && s.colons ≤ 1 && !s.bare && !s.percent
  | c :: rest =>
    if c = ':' then authorityFrom { s with colons := s.colons + 1, bare := false } rest
    else if c = '[' then
      !(s.percent || s.opened) && authorityFrom { s with opened := true, bare := false } rest
    else if c = ']' then
      s.opened && !s.closed
        && authorityFrom { s with closed := true, colons := 0, percent := false, bare := false } rest
    else if c = '@' then
      authorityFrom { s with colons := 0, percent := false, bare := true } rest
    else if c = '%' then authorityFrom { s with percent := true, bare := false } rest
    else isAuthorityChar c && authorityFrom { s with bare := false } rest

/-- Whether a text can stand as an authority. -/
def isAuthority (cs : List Char) : Bool := !cs.isEmpty && authorityFrom ⟨0, false, false, false, false⟩ cs

/-- The greatest length of a URL, in bytes. -/
def longestUrl : Nat := 65534

/-- Whether a URL can be written as a request URI. One without an authority of its own passes if all
of it can stand as an authority. -/
def isUri (u : Url) : Bool :=
  u.toText.length ≤ longestUrl &&
    match u.authority with
    | some a => isAuthority a.toText
    | none => isAuthority u.toText

/-- Whether requests are made for a scheme. -/
def isWebScheme (scheme : List Char) : Bool := scheme = "http".toList || scheme = "https".toList

/-- Whether a request can be made for a URL. -/
def isRequestable (u : Url) : Bool := isWebScheme u.scheme && isUri u

/-- What a request names as its target, which has no fragment: to a proxy that carries the requests of `http`
the whole URL, and to the server itself path and query. -/
def targetText (proxied : Bool) (u : Url) : List Char :=
  if proxied ∧ u.scheme = "http".toList then u.withoutFragment.toText else u.path.toText ++ u.queryText

/-- The port that a URL leads to. -/
def portOf (u : Url) : Option Nat := u.port <|> defaultPort u.scheme

/-- Whether two URLs lead to the same host and port. -/
def sameOrigin (u v : Url) : Bool :=
  u.host.map Host.toText = v.host.map Host.toText && portOf u = portOf v

/-- Host and port as a request names them. -/
def hostText (u : Url) : List Char := (u.authority.map fun a => a.hostText ++ a.portText).getD []

end FragmentFeed.Http
