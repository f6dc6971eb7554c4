import FragmentFeed.Fetch.Error

/-!
# Sources

A source fetches fragments over HTTP. Its base, if it has one, is what relative URLs are resolved
against.
-/

namespace FragmentFeed

/-- Where fragments come from. -/
structure Source where
  base : Option Url
  deriving DecidableEq, Repr

namespace Source

/-- The source without a base. -/
def absolute : Source := ⟨none⟩

/-- The source with a base, given as a text. -/
def ofBase (base : String) : Except FetchError Source :=
  match Url.parse none base.toList with
  | .ok u => .ok ⟨some u⟩
  | .error e => .error (.invalidUrl base e.message)

/-- Resolves the URL of a fragment. What reads as a URL of its own, or fails to for any other reason
than being relative, has nothing to do with the base. -/
def resolve (s : Source) (url : String) : Except FetchError Url :=
  match Url.parse none url.toList with
  | .ok u => .ok u
  | .error .relativeWithoutBase =>
    match s.base with
    | none => .error (.invalidUrl url ParseError.relativeWithoutBase.message)
    | some b =>
      match Url.parse (some b) url.toList with
      | .ok u => .ok u
      | .error e => .error (.invalidUrl url e.message)
  | .error e => .error (.invalidUrl url e.message)

end Source

end FragmentFeed
