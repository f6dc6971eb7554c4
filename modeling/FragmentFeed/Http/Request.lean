import FragmentFeed.Http.Target
import FragmentFeed.Text.Base64

/-!
# Requests

What is sent for a URL. User name and password of the URL first asked for become a header, if they
are text; after a redirect the URL before it is named as the referer.
-/

namespace FragmentFeed.Http

open Text

/-- A user name and perhaps a password. -/
structure Credentials where
  user : List Char
  password : Option (List Char)
  deriving DecidableEq, Repr

namespace Credentials

/-- The credentials in a URL. They have to be UTF-8: a user name that is not leaves all of them out,
a password that is not only itself. -/
def ofUrl? (u : Url) : Option Credentials := do
  let user ← Utf8.decode? (Percent.decode u.username)
  let password := u.password.bind fun p => Utf8.decode? (Percent.decode p)
  if user.isEmpty && password.isNone then none else some ⟨user, password⟩

/-- The value of the header that carries them. -/
def headerValue (c : Credentials) : List Char :=
  "Basic ".toList ++ Base64.encode (Utf8.encode (c.user ++ ':' :: c.password.getD []))

end Credentials

/-- What is sent: the URL asked for, who asks, and where from. -/
structure Request where
  url : Url
  authorization : Option (List Char)
  referer : Option (List Char)
  deriving DecidableEq, Repr

namespace Request

/-- The first line. -/
def line (proxied : Bool) (r : Request) : List Char :=
  "GET ".toList ++ targetText proxied r.url ++ " HTTP/1.1".toList

/-- A header that may be missing. -/
def optionalHeader (name : String) (value : Option (List Char)) : List (String × List Char) :=
  (value.map fun v => (name, v)).toList

/-- The headers, by name. -/
def headers (r : Request) : List (String × List Char) :=
  ("accept", "*/*".toList) :: optionalHeader "authorization" r.authorization
    ++ ("host", hostText r.url) :: optionalHeader "referer" r.referer

/-- How the URL of a request is named to where it leads. -/
def refererOf (u : Url) : List Char := u.withoutUserInfo.withoutFragment.toText

/-- The request for the URL first asked for, with the credentials taken out of the URL. -/
def first (u : Url) : Request :=
  match Credentials.ofUrl? u with
  | some c => ⟨u.withoutUserInfo, some c.headerValue, none⟩
  | none => ⟨u, none, none⟩

/-- The request that follows a redirect. Credentials stay with the host and port they were for. -/
def redirected (r : Request) (next : Url) : Request :=
  ⟨next, if sameOrigin r.url next then r.authorization else none, some (refererOf r.url)⟩

end Request

end FragmentFeed.Http
